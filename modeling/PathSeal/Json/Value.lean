import PathSeal.Json.Lexical

/-!
# PathSeal.Json.Value

JSON values as trees: reading them from a text and writing them without blanks.
The members of an object keep their order and may repeat a key.
-/

namespace PathSeal.Json

/-- A JSON value. -/
inductive Value where
  | null
  | boolean (b : Bool)
  | number (n : Number)
  | text (s : String)
  | list (values : List Value)
  | object (members : List (String × Value))

namespace Value

/-- A whole number as a value. -/
def count (n : Nat) : Value := .number (.natural n)

/-! ## Writing -/

/-- Two hexadecimal digits of a number below 256. -/
def hexByte (n : Nat) : List Char :=
  [Nat.digitChar (n / 16), Nat.digitChar (n % 16)]

/-- One character inside a string. Only quotes, backslashes and control characters are escaped. -/
def writtenChar (c : Char) : List Char :=
  if c = '"' then ['\\', '"']
  else if c = '\\' then ['\\', '\\']
  else if c = '\x08' then ['\\', 'b']
  else if c = '\x0c' then ['\\', 'f']
  else if c = '\n' then ['\\', 'n']
  else if c = '\r' then ['\\', 'r']
  else if c = '\t' then ['\\', 't']
  else if c.toNat < 0x20 then ['\\', 'u', '0', '0'] ++ hexByte c.toNat
  else [c]

/-- A string with its quotes. -/
def writtenString (s : String) : List Char :=
  '"' :: s.toList.flatMap writtenChar ++ ['"']

/-- A number. -/
def writtenNumber : Number → List Char
  | .natural n => Nat.toDigits 10 n
  | .negative n => '-' :: Nat.toDigits 10 n
  | .floating x => (Decimal.shortest x).toList

mutual

/-- A value, as characters. -/
def written : Value → List Char
  | null => ['n', 'u', 'l', 'l']
  | boolean true => ['t', 'r', 'u', 'e']
  | boolean false => ['f', 'a', 'l', 's', 'e']
  | number n => writtenNumber n
  | text s => writtenString s
  | list values => '[' :: writtenList values ++ [']']
  | object members => '\x7b' :: writtenMembers members ++ ['\x7d']

/-- Values with commas between them. -/
def writtenList : List Value → List Char
  | [] => []
  | [v] => written v
  | v :: vs => written v ++ ',' :: writtenList vs

/-- Members with commas between them. -/
def writtenMembers : List (String × Value) → List Char
  | [] => []
  | [(k, v)] => writtenString k ++ ':' :: written v
  | (k, v) :: ms => writtenString k ++ ':' :: written v ++ ',' :: writtenMembers ms

end

/-- The text of a value, without blanks. -/
def compact (v : Value) : String :=
  String.ofList v.written

/-! ## Reading -/

/-- Takes a value that is no list or object. -/
def scalar : List Char → Except Fault (Value × List Char)
  | [] => failAt .eofInValue []
  | 'n' :: cs => return (null, ← literal ['u', 'l', 'l'] cs)
  | 't' :: cs => return (boolean true, ← literal ['r', 'u', 'e'] cs)
  | 'f' :: cs => return (boolean false, ← literal ['a', 'l', 's', 'e'] cs)
  | '-' :: cs => do
    let (n, cs) ← Json.number true cs
    return (number n, cs)
  | '"' :: cs => do
    let (s, cs) ← string cs
    return (text (String.ofList s), cs)
  | c :: cs =>
    if isDigit c then do
      let (n, cs) ← Json.number false (c :: cs)
      return (number n, cs)
    else failAt .expectedValue (c :: cs)

/-- Takes a key and its colon. -/
def key (cs : List Char) : Except Fault (String × List Char) := do
  match skipBlanks cs with
  | '"' :: cs =>
    let (s, cs) ← string cs
    match skipBlanks cs with
    | ':' :: cs => return (String.ofList s, cs)
    | [] => failAt .eofInObject []
    | cs => failAt .expectedColon cs
  | [] => failAt .eofInObject []
  | cs => failAt .keyMustBeString cs

mutual

/-- Takes a value. -/
def take : (fuel : Nat) → List Char → Except Fault (Value × List Char)
  | 0, cs => failAt .eofInValue cs
  | fuel + 1, cs => do
    match skipBlanks cs with
    | '[' :: cs =>
      match skipBlanks cs with
      | ']' :: cs => return (list [], cs)
      | cs =>
        let (values, cs) ← takeList fuel cs
        return (list values, cs)
    | '\x7b' :: cs =>
      match skipBlanks cs with
      | '\x7d' :: cs => return (object [], cs)
      | cs =>
        let (members, cs) ← takeMembers fuel cs
        return (object members, cs)
    | cs => scalar cs

/-- Takes values with commas between them, and the closing bracket. -/
def takeList : (fuel : Nat) → List Char → Except Fault (List Value × List Char)
  | 0, cs => failAt .eofInList cs
  | fuel + 1, cs => do
    let (value, cs) ← take fuel cs
    match skipBlanks cs with
    | ',' :: cs =>
      let (values, cs) ← takeList fuel cs
      return (value :: values, cs)
    | ']' :: cs => return ([value], cs)
    | [] => failAt .eofInList []
    | cs => failAt .expectedListCommaOrEnd cs

/-- Takes members with commas between them, and the closing brace. -/
def takeMembers : (fuel : Nat) → List Char → Except Fault (List (String × Value) × List Char)
  | 0, cs => failAt .eofInObject cs
  | fuel + 1, cs => do
    let (name, cs) ← key cs
    let (value, cs) ← take fuel cs
    match skipBlanks cs with
    | ',' :: cs =>
      let (members, cs) ← takeMembers fuel cs
      return ((name, value) :: members, cs)
    | '\x7d' :: cs => return ([(name, value)], cs)
    | [] => failAt .eofInObject []
    | cs => failAt .expectedObjectCommaOrEnd cs

end

/-- The value that a whole text holds. -/
def parse (s : String) : Except Fault Value := do
  let cs := s.toList
  let (value, rest) ← take (cs.length + 1) cs
  match skipBlanks rest with
  | [] => return value
  | rest => failAt .trailingCharacters rest

end Value
end PathSeal.Json
