import PathSeal.Decimal.Shortest
import PathSeal.Json.Fault
import PathSeal.Text.Hex

/-!
# PathSeal.Json.Lexical

The lexical parts of JSON: blanks, literal names, strings and numbers, and
skipping a whole value. A reader takes characters off the front and gives back
what is left.
-/

namespace PathSeal.Json

open Text (hexDigit?)

/-- Fails right before the remaining characters. -/
def failBefore (problem : Problem) (rest : List Char) : Except Fault α :=
  .error (.before problem rest)

/-- Fails at the first of the remaining characters. -/
def failAt (problem : Problem) (rest : List Char) : Except Fault α :=
  .error (.at problem rest)

/-- The blanks between tokens. -/
def isBlank (c : Char) : Bool :=
  c == ' ' || c == '\n' || c == '\t' || c == '\r'

/-- The characters from the first token on. -/
def skipBlanks (cs : List Char) : List Char :=
  cs.dropWhile isBlank

/-- Takes the rest of a literal name such as `ull`. -/
def literal : (name cs : List Char) → Except Fault (List Char)
  | [], cs => .ok cs
  | _ :: _, [] => failBefore .eofInValue []
  | n :: name, c :: cs => if n = c then literal name cs else failAt .expectedIdent (c :: cs)

/-! ## Strings -/

/-- Fails after the four bytes that are no hexadecimal number. -/
def badHex (cs : List Char) : Except Fault α :=
  .error ⟨.invalidEscape, byteLength cs - 4⟩

/-- Takes four hexadecimal digits. -/
def hexEscape (cs : List Char) : Except Fault (Nat × List Char) :=
  match cs with
  | a :: b :: c :: d :: rest =>
    match hexDigit? a, hexDigit? b, hexDigit? c, hexDigit? d with
    | some a, some b, some c, some d => .ok (((a * 16 + b) * 16 + c) * 16 + d, rest)
    | _, _, _, _ => badHex cs
  | cs => if byteLength cs < 4 then failBefore .eofInString [] else badHex cs

/-- Takes one expected character of the second half of a surrogate pair. -/
def pairCharacter (expected : Char) : List Char → Except Fault (List Char)
  | [] => failBefore .eofInString []
  | c :: cs =>
    if c = expected then .ok cs
    else .error ⟨.endOfHexEscape, byteLength (c :: cs) - 1⟩

/-- Takes what follows `\u`: four digits, or the eight of a surrogate pair. -/
def unicodeEscape (cs : List Char) : Except Fault (Char × List Char) := do
  let (high, rest) ← hexEscape cs
  if 0xdc00 ≤ high ∧ high ≤ 0xdfff then failBefore .loneSurrogate rest
  else if high < 0xd800 ∨ 0xdbff < high then return (Char.ofNat high, rest)
  else
    let rest ← pairCharacter '\\' rest
    let rest ← pairCharacter 'u' rest
    let (low, rest) ← hexEscape rest
    if low < 0xdc00 ∨ 0xdfff < low then failBefore .loneSurrogate rest
    else return (Char.ofNat ((high - 0xd800) * 0x400 + (low - 0xdc00) + 0x10000), rest)

/-- The character that a one-letter escape stands for. -/
def simpleEscape? (c : Char) : Option Char :=
  match c with
  | '"' => some '"'
  | '\\' => some '\\'
  | '/' => some '/'
  | 'b' => some '\x08'
  | 'f' => some '\x0c'
  | 'n' => some '\n'
  | 'r' => some '\r'
  | 't' => some '\t'
  | _ => none

/-- Takes what follows a backslash. -/
def escape : List Char → Except Fault (Char × List Char)
  | [] => failBefore .eofInString []
  | c :: cs =>
    if c = 'u' then unicodeEscape cs
    else match simpleEscape? c with
      | some e => .ok (e, cs)
      | none => failAt .invalidEscape (c :: cs)

/-- Takes a string up to its closing quote, with the characters so far in reverse. -/
def stringTail : (fuel : Nat) → (taken cs : List Char) → Except Fault (List Char × List Char)
  | 0, _, _ => failBefore .eofInString []
  | fuel + 1, taken, cs =>
    match cs with
    | [] => failBefore .eofInString []
    | '"' :: cs => .ok (taken.reverse, cs)
    | '\\' :: cs => do
      let (c, cs) ← escape cs
      stringTail fuel (c :: taken) cs
    | c :: cs =>
      if c.toNat < 0x20 then failBefore .controlCharacter cs
      else stringTail fuel (c :: taken) cs

/-- Takes a string whose opening quote has been taken. -/
def string (cs : List Char) : Except Fault (List Char × List Char) :=
  stringTail (cs.length + 1) [] cs

/-- Skips a string whose opening quote has been taken. What its escapes stand for is not
looked at. -/
def skipString : (fuel : Nat) → List Char → Except Fault (List Char)
  | 0, _ => failBefore .eofInString []
  | fuel + 1, cs =>
    match cs with
    | [] => failBefore .eofInString []
    | '"' :: cs => .ok cs
    | '\\' :: 'u' :: cs => do
      let (_, cs) ← hexEscape cs
      skipString fuel cs
    | '\\' :: c :: cs =>
      if (simpleEscape? c).isSome then skipString fuel cs else failAt .invalidEscape (c :: cs)
    | '\\' :: [] => failBefore .eofInString []
    | c :: cs =>
      if c.toNat < 0x20 then failBefore .controlCharacter (c :: cs) else skipString fuel cs

/-! ## Numbers -/

/-- A number as it is read. -/
inductive Number where
  | natural (n : Nat)
  | negative (n : Nat)
  | floating (x : Float)

/-- Whether a character is a decimal digit. -/
def isDigit (c : Char) : Bool := '0' ≤ c && c ≤ '9'

/-- The number of a decimal digit. -/
def digit (c : Char) : Nat := c.toNat - 48

/-- The largest whole number that is read exactly. -/
def maxWhole : Nat := UInt64.size - 1

/-- A significand times a power of ten in binary64 arithmetic. Powers beyond 308 are applied in
steps, as long as the significand allows. -/
def scaled (rest : List Char) : (fuel : Nat) → (x : Float) → (exponent : Int) → Except Fault Float
  | 0, x, _ => .ok x
  | fuel + 1, x, exponent =>
    if exponent.natAbs ≤ 308 then
      let power := Float.ofScientific 1 false exponent.natAbs
      if 0 ≤ exponent then
        let y := x * power
        if y.isInf then failBefore .numberOutOfRange rest else .ok y
      else .ok (x / power)
    else if x == 0 then .ok x
    else if 0 ≤ exponent then failBefore .numberOutOfRange rest
    else scaled rest fuel (x / 1e308) (exponent + 308)

/-- The number of a significand and a power of ten. -/
def floatingOf (negative : Bool) (significand : Nat) (exponent : Int) (rest : List Char) :
    Except Fault (Number × List Char) := do
  let x ← scaled rest 8 significand.toUInt64.toFloat exponent
  return (.floating (if negative then -x else x), rest)

/-- Takes digits into a number as long as it stays exact; the count says how many. -/
def takeWhole : (value count : Nat) → List Char → Nat × Nat × List Char
  | value, count, [] => (value, count, [])
  | value, count, c :: cs =>
    if isDigit c ∧ value * 10 + digit c ≤ maxWhole then
      takeWhole (value * 10 + digit c) (count + 1) cs
    else (value, count, c :: cs)

/-- Takes an exponent after its letter. -/
def exponentPart (negative : Bool) (significand : Nat) (start : Int) (cs : List Char) :
    Except Fault (Number × List Char) :=
  let (down, cs) := match cs with
    | '+' :: cs => (false, cs)
    | '-' :: cs => (true, cs)
    | cs => (false, cs)
  match cs with
  | [] => failBefore .eofInValue []
  | c :: after =>
    if !isDigit c then failAt .invalidNumber (c :: after)
    else
      let digits := cs.takeWhile isDigit
      let rest := cs.dropWhile isDigit
      let value := digits.foldl (fun n c => n * 10 + digit c) 0
      if value ≤ 2147483647 then
        let exponent : Int := if down then start - value else start + value
        floatingOf negative significand exponent rest
      else if significand ≠ 0 ∧ ¬ down then
        let exact := firstOverflow 0 cs
        failBefore .numberOutOfRange exact
      else .ok (.floating (if negative then -0.0 else 0.0), rest)
where
  /-- What is left after the digit that makes an exponent too large. -/
  firstOverflow : Nat → List Char → List Char
    | _, [] => []
    | n, c :: cs =>
      if isDigit c then
        if n * 10 + digit c ≤ 2147483647 then firstOverflow (n * 10 + digit c) cs else cs
      else c :: cs

/-- Takes an exponent if there is one. -/
def exponentOrEnd (negative : Bool) (significand : Nat) (exponent : Int) (cs : List Char) :
    Except Fault (Number × List Char) :=
  match cs with
  | 'e' :: cs | 'E' :: cs => exponentPart negative significand exponent cs
  | cs => floatingOf negative significand exponent cs

/-- Takes a fraction after its point; digits beyond the exact range are passed over. -/
def fractionPart (negative : Bool) (significand : Nat) (exponent : Int) (cs : List Char) :
    Except Fault (Number × List Char) :=
  let (value, count, rest) := takeWhole significand 0 cs
  match rest with
  | c :: _ =>
    if isDigit c then exponentOrEnd negative value (exponent - count) (rest.dropWhile isDigit)
    else if count = 0 then failAt .invalidNumber rest
    else exponentOrEnd negative value (exponent - count) rest
  | [] =>
    if count = 0 then failAt .eofInValue [] else exponentOrEnd negative value (exponent - count) []

/-- Takes a number whose sign has been taken. -/
def number (negative : Bool) : List Char → Except Fault (Number × List Char)
  | [] => failBefore .eofInValue []
  | c :: cs =>
    if c = '0' then
      match cs with
      | d :: _ => if isDigit d then failAt .invalidNumber cs else afterWhole 0 cs
      | [] => afterWhole 0 []
    else if isDigit c then
      let (value, _, rest) := takeWhole (digit c) 0 cs
      let more := rest.takeWhile isDigit
      if more = [] then afterWhole value rest
      else
        let rest := rest.dropWhile isDigit
        match rest with
        | '.' :: cs => fractionPart negative value more.length cs
        | _ => exponentOrEnd negative value more.length rest
    else failAt .invalidNumber (c :: cs)
where
  /-- Goes on after the whole part. -/
  afterWhole (value : Nat) (cs : List Char) : Except Fault (Number × List Char) :=
    match cs with
    | '.' :: cs => fractionPart negative value 0 cs
    | 'e' :: cs | 'E' :: cs => exponentPart negative value 0 cs
    | cs =>
      if !negative then .ok (.natural value, cs)
      else if value = 0 ∨ UInt64.size / 2 < value then .ok (.floating (-value.toUInt64.toFloat), cs)
      else .ok (.negative value, cs)

/-! ## Skipping a value -/

/-- Skips the exponent of a number after its letter. -/
def skipExponent (cs : List Char) : Except Fault (List Char) :=
  let cs := match cs with
    | '+' :: cs | '-' :: cs => cs
    | cs => cs
  match cs with
  | c :: rest =>
    if isDigit c then .ok (rest.dropWhile isDigit) else failAt .invalidNumber (c :: rest)
  | [] => failBefore .invalidNumber []

/-- Skips fraction and exponent of a number. -/
def skipFraction : List Char → Except Fault (List Char)
  | '.' :: cs =>
    match cs with
    | c :: _ =>
      if isDigit c then
        match cs.dropWhile isDigit with
        | 'e' :: cs | 'E' :: cs => skipExponent cs
        | cs => .ok cs
      else failAt .invalidNumber cs
    | [] => failAt .invalidNumber []
  | 'e' :: cs | 'E' :: cs => skipExponent cs
  | cs => .ok cs

/-- Skips a number whose sign has been taken. -/
def skipNumber : List Char → Except Fault (List Char)
  | [] => failBefore .invalidNumber []
  | c :: cs =>
    if c = '0' then
      match cs with
      | d :: _ => if isDigit d then failAt .invalidNumber cs else skipFraction cs
      | [] => .ok []
    else if isDigit c then skipFraction (cs.dropWhile isDigit)
    else failAt .invalidNumber (c :: cs)

/-- An open list or object. -/
inductive Frame where
  | list
  | object
deriving DecidableEq

/-- Skips a value that is no list or object. -/
def skipScalar : List Char → Except Fault (List Char)
  | [] => failAt .eofInValue []
  | 'n' :: cs => literal ['u', 'l', 'l'] cs
  | 't' :: cs => literal ['r', 'u', 'e'] cs
  | 'f' :: cs => literal ['a', 'l', 's', 'e'] cs
  | '-' :: cs => skipNumber cs
  | '"' :: cs => skipString (cs.length + 1) cs
  | c :: cs => if isDigit c then skipNumber (c :: cs) else failAt .expectedValue (c :: cs)

/-- Skips an object key and its colon. -/
def skipKey (cs : List Char) : Except Fault (List Char) := do
  match skipBlanks cs with
  | '"' :: cs =>
    let cs ← skipString (cs.length + 1) cs
    match skipBlanks cs with
    | ':' :: cs => return cs
    | [] => failAt .eofInObject []
    | cs => failAt .expectedColon cs
  | [] => failAt .eofInObject []
  | cs => failAt .keyMustBeString cs

mutual

/-- Skips the value that comes next inside the open lists and objects, and all up to where the last
of these ends. -/
def skipNested : (fuel : Nat) → List Frame → List Char → Except Fault (List Char)
  | 0, _, cs => failAt .eofInValue cs
  | fuel + 1, frames, cs => do
    match skipBlanks cs with
    | '[' :: cs => skipFirst fuel .list frames cs
    | '\x7b' :: cs => skipFirst fuel .object frames cs
    | cs => skipAfter fuel frames (← skipScalar cs)

/-- Goes on right after an opening bracket: the list or object may be empty. -/
def skipFirst : (fuel : Nat) → Frame → List Frame → List Char → Except Fault (List Char)
  | 0, _, _, cs => failAt .eofInValue cs
  | fuel + 1, .list, frames, cs =>
    match skipBlanks cs with
    | ']' :: cs => skipAfter fuel frames cs
    | [] => failAt .eofInList []
    | cs => skipNested fuel (.list :: frames) cs
  | fuel + 1, .object, frames, cs => do
    match skipBlanks cs with
    | '\x7d' :: cs => skipAfter fuel frames cs
    | [] => failAt .eofInObject []
    | cs => skipNested fuel (.object :: frames) (← skipKey cs)

/-- Goes on after a value: with the next one, or with the end of the innermost list or object. -/
def skipAfter : (fuel : Nat) → List Frame → List Char → Except Fault (List Char)
  | 0, _, cs => failAt .eofInValue cs
  | _ + 1, [], cs => .ok cs
  | fuel + 1, .list :: frames, cs =>
    match skipBlanks cs with
    | ',' :: cs => skipNested fuel (.list :: frames) cs
    | ']' :: cs => skipAfter fuel frames cs
    | [] => failAt .eofInList []
    | cs => failAt .expectedListCommaOrEnd cs
  | fuel + 1, .object :: frames, cs => do
    match skipBlanks cs with
    | ',' :: cs => skipNested fuel (.object :: frames) (← skipKey cs)
    | '\x7d' :: cs => skipAfter fuel frames cs
    | [] => failAt .eofInObject []
    | cs => failAt .expectedObjectCommaOrEnd cs

end

/-- Skips one value of any kind. -/
def skipValue (cs : List Char) : Except Fault (List Char) :=
  skipNested (2 * cs.length + 2) [] cs

end PathSeal.Json
