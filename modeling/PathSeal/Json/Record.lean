import PathSeal.Json.Lexical
import PathSeal.Text.Quoted

/-!
# PathSeal.Json.Record

Reading records of a fixed shape. A record is written as an object, with its
fields in any order and possibly others among them, or as an array of its
fields in their order. Every field must be there exactly once.

A record that is well formed but does not fit is reported where reading it
ended, so a fault always has a place.
-/

namespace PathSeal.Json

/-- What a field may hold. -/
inductive Kind where
  | text
  | boolean
  /-- A whole number below 2^64; the word is what messages call such a number. -/
  | count (word : String)
deriving DecidableEq

namespace Kind

/-- The values of a kind. -/
abbrev Value : Kind → Type
  | text => String
  | boolean => Bool
  | count _ => UInt64

/-- What a message says was expected. -/
def expectation : Kind → String
  | text => "a string"
  | boolean => "a boolean"
  | count word => word

end Kind

/-- A field: its name and what it may hold. -/
abbrev Field := String × Kind

/-- A shape of records. -/
structure Schema where
  name : String
  fields : List Field
deriving DecidableEq

/-- The values of fields in their order. -/
abbrev Row : List Field → Type
  | [] => Unit
  | (_, kind) :: fields => kind.Value × Row fields

/-- The values of those fields that have been read. -/
abbrev Partial : List Field → Type
  | [] => Unit
  | (_, kind) :: fields => Option kind.Value × Partial fields

/-- No field has been read. -/
def Partial.empty : (fields : List Field) → Partial fields
  | [] => ()
  | _ :: fields => (none, empty fields)

/-- All values, unless one is missing; then its name. -/
def Partial.complete : (fields : List Field) → Partial fields → Except String (Row fields)
  | [], () => .ok ()
  | (name, _) :: fields, (value, values) =>
    match value with
    | none => .error name
    | some value => (complete fields values).map (value, ·)

/-! ## Values of another kind -/

/-- The text of a binary fraction in a message. -/
def floatingText (x : Float) : String :=
  s!"floating point \x60{Decimal.shortest x}\x60"

/-- What a message calls a number. -/
def Number.description : Number → String
  | natural n => s!"integer \x60{n}\x60"
  | negative n => s!"integer \x60-{n}\x60"
  | floating x => floatingText x

/-- Takes a scalar, or looks at the bracket of a list or object, and says what it is. -/
def describe : List Char → Except Fault (String × List Char)
  | 'n' :: cs => return ("null", ← literal ['u', 'l', 'l'] cs)
  | 't' :: cs => return ("boolean \x60true\x60", ← literal ['r', 'u', 'e'] cs)
  | 'f' :: cs => return ("boolean \x60false\x60", ← literal ['a', 'l', 's', 'e'] cs)
  | '-' :: cs => do
    let (n, cs) ← number true cs
    return (n.description, cs)
  | '"' :: cs => do
    let (s, cs) ← string cs
    return (s!"string {Text.quoted (String.ofList s)}", cs)
  | '[' :: cs => return ("sequence", '[' :: cs)
  | '\x7b' :: cs => return ("map", '\x7b' :: cs)
  | [] => failAt .expectedValue []
  | c :: cs =>
    if isDigit c then do
      let (n, cs) ← number false (c :: cs)
      return (n.description, cs)
    else failAt .expectedValue (c :: cs)

/-- Fails because the value that comes next is of another kind than expected. -/
def wrongType (expectation : String) (cs : List Char) : Except Fault α := do
  let (found, rest) ← describe cs
  failBefore (.mismatch s!"invalid type: {found}, expected {expectation}") rest

/-- Fails because of a number that does not fit. -/
def wrongNumber (n : Number) (word : String) (rest : List Char) : Except Fault α :=
  match n with
  | .natural _ | .negative _ =>
    failBefore (.mismatch s!"invalid value: {n.description}, expected {word}") rest
  | .floating _ => failBefore (.mismatch s!"invalid type: {n.description}, expected {word}") rest

/-- Takes the number that a count is read from. -/
def readCount (word : String) (negative : Bool) (cs : List Char) :
    Except Fault (UInt64 × List Char) := do
  let (n, rest) ← number negative cs
  match n with
  | .natural n => return (n.toUInt64, rest)
  | n => wrongNumber n word rest

/-- Takes a value of a kind. -/
def readValue (kind : Kind) (cs : List Char) : Except Fault (kind.Value × List Char) :=
  match kind, skipBlanks cs with
  | _, [] => failAt .eofInValue []
  | .text, '"' :: cs => do
    let (s, cs) ← string cs
    return (String.ofList s, cs)
  | .boolean, 't' :: cs => return (true, ← literal ['r', 'u', 'e'] cs)
  | .boolean, 'f' :: cs => return (false, ← literal ['a', 'l', 's', 'e'] cs)
  | .count word, c :: cs =>
    if c = '-' then readCount word true cs
    else if isDigit c then readCount word false (c :: cs)
    else wrongType word (c :: cs)
  | kind, cs => wrongType kind.expectation cs

/-! ## Objects -/

/-- Where reading an object ends after a fault of its contents: past blanks and a closing brace. -/
def afterObject (cs : List Char) : List Char :=
  match skipBlanks cs with
  | '\x7d' :: cs => cs
  | cs => cs

/-- Takes the colon after a key. -/
def takeColon (cs : List Char) : Except Fault (List Char) :=
  match skipBlanks cs with
  | ':' :: cs => .ok cs
  | [] => failAt .eofInObject []
  | cs => failAt .expectedColon cs

/-- Takes the value of the field with the given key into its place; the value of any other key is
skipped. -/
def readField : (fields : List Field) → Partial fields → (key : String) → List Char →
    Except Fault (Partial fields × List Char)
  | [], (), _, cs => do
    let cs ← takeColon cs
    let cs ← skipValue cs
    return ((), cs)
  | (name, kind) :: fields, (value, values), key, cs =>
    if name = key then
      match value with
      | some _ => failBefore (.mismatch s!"duplicate field \x60{name}\x60") (afterObject cs)
      | none => do
        let cs ← takeColon cs
        let (value, cs) ← readValue kind cs
        return ((some value, values), cs)
    else do
      let (values, cs) ← readField fields values key cs
      return ((value, values), cs)

/-- Takes the next key of an object; there is none before the closing brace, which is left. -/
def nextKey (first : Bool) (cs : List Char) : Except Fault (Option String × List Char) :=
  match skipBlanks cs with
  | [] => failAt .eofInObject []
  | '\x7d' :: cs => .ok (none, '\x7d' :: cs)
  | c :: cs =>
    if first then if c = '"' then key cs else failAt .keyMustBeString (c :: cs)
    else if c = ',' then
      match skipBlanks cs with
      | [] => failAt .eofInValue []
      | '"' :: cs => key cs
      | '\x7d' :: cs => failAt .trailingComma ('\x7d' :: cs)
      | cs => failAt .keyMustBeString cs
    else failAt .expectedObjectCommaOrEnd (c :: cs)
where
  /-- Takes a key whose opening quote has been taken. -/
  key (cs : List Char) : Except Fault (Option String × List Char) := do
    let (s, cs) ← string cs
    return (some (String.ofList s), cs)

/-- Takes the fields of an object up to its closing brace, which is left. -/
def readMembers (fields : List Field) : (fuel : Nat) → (first : Bool) → Partial fields →
    List Char → Except Fault (Partial fields × List Char)
  | 0, _, _, cs => failAt .eofInObject cs
  | fuel + 1, first, values, cs => do
    match ← nextKey first cs with
    | (none, cs) => return (values, cs)
    | (some key, cs) =>
      let (values, cs) ← readField fields values key cs
      readMembers fields fuel false values cs

/-- Takes an object whose opening brace has been taken. -/
def readObject (fields : List Field) (cs : List Char) : Except Fault (Row fields × List Char) := do
  let (values, cs) ← readMembers fields (cs.length + 1) true (.empty fields) cs
  let rest := afterObject cs
  match values.complete fields with
  | .ok row => return (row, rest)
  | .error name => failBefore (.mismatch s!"missing field \x60{name}\x60") rest

/-! ## Arrays -/

/-- Where reading a short array ends: past blanks and the closing bracket. -/
def afterArray (cs : List Char) : List Char :=
  match skipBlanks cs with
  | ']' :: cs => cs
  | cs => cs

/-- Looks for the next element of an array: what is left from it on, or nothing before the closing
bracket. -/
def nextElement (first : Bool) (cs : List Char) : Except Fault (Option (List Char)) :=
  match skipBlanks cs with
  | [] => failAt .eofInList []
  | ']' :: _ => .ok none
  | c :: cs =>
    if first then .ok (some (c :: cs))
    else if c = ',' then
      match skipBlanks cs with
      | [] => failAt .eofInValue []
      | ']' :: cs => failAt .trailingComma (']' :: cs)
      | cs => .ok (some cs)
    else failAt .expectedListCommaOrEnd (c :: cs)

/-- Says how many elements an array should have had. -/
def wrongLength (schema : Schema) (found : Nat) (cs : List Char) : Except Fault α :=
  let wanted := schema.fields.length
  let noun := if wanted = 1 then "element" else "elements"
  failBefore
    (.mismatch s!"invalid length {found}, expected struct {schema.name} with {wanted} {noun}")
    (afterArray cs)

/-- Takes the fields of an array, of which some have been taken. -/
def readElements (schema : Schema) : (fields : List Field) → (taken : Nat) → List Char →
    Except Fault (Row fields × List Char)
  | [], _, cs => .ok ((), cs)
  | (_, kind) :: fields, taken, cs => do
    match ← nextElement (taken == 0) cs with
    | none => wrongLength schema taken cs
    | some cs =>
      let (value, cs) ← readValue kind cs
      let (values, cs) ← readElements schema fields (taken + 1) cs
      return ((value, values), cs)

/-- Takes the closing bracket of an array. -/
def takeBracket (cs : List Char) : Except Fault (List Char) :=
  match skipBlanks cs with
  | ']' :: cs => .ok cs
  | ',' :: cs =>
    match skipBlanks cs with
    | ']' :: cs => failAt .trailingComma (']' :: cs)
    | cs => failAt .trailingCharacters cs
  | [] => failAt .eofInList []
  | cs => failAt .trailingCharacters cs

/-! ## Records -/

/-- Takes a record. -/
def readRecord (schema : Schema) (cs : List Char) :
    Except Fault (Row schema.fields × List Char) :=
  match skipBlanks cs with
  | [] => failAt .eofInValue []
  | '[' :: cs => do
    let (row, cs) ← readElements schema schema.fields 0 cs
    return (row, ← takeBracket cs)
  | '\x7b' :: cs => readObject schema.fields cs
  | cs => wrongType s!"struct {schema.name}" cs

/-- The record that a whole text holds. -/
def Schema.read (schema : Schema) (text : String) : Except Fault (Row schema.fields) := do
  let (row, rest) ← readRecord schema text.toList
  match skipBlanks rest with
  | [] => return row
  | rest => failAt .trailingCharacters rest

end PathSeal.Json
