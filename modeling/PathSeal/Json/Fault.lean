/-!
# PathSeal.Json.Fault

Faults in JSON texts, with the place where they were found. A place is given by
how many bytes were left to read; line and column follow from the text.
-/

namespace PathSeal.Json

/-- What is wrong with a JSON text. -/
inductive Problem where
  | eofInList
  | eofInObject
  | eofInString
  | eofInValue
  | expectedColon
  | expectedListCommaOrEnd
  | expectedObjectCommaOrEnd
  | expectedIdent
  | expectedValue
  | invalidEscape
  | invalidNumber
  | numberOutOfRange
  | controlCharacter
  | keyMustBeString
  | loneSurrogate
  | endOfHexEscape
  | trailingComma
  | trailingCharacters
  /-- The text is JSON but does not describe what was asked for. -/
  | mismatch (text : String)
deriving DecidableEq

/-- The classes of problems. -/
inductive Category where
  | eof
  | syntactic
  | data
deriving DecidableEq

namespace Problem

/-- The class of a problem. -/
def category : Problem → Category
  | eofInList | eofInObject | eofInString | eofInValue => .eof
  | mismatch _ => .data
  | _ => .syntactic

/-- The text of a problem without its place. -/
def message : Problem → String
  | eofInList => "EOF while parsing a list"
  | eofInObject => "EOF while parsing an object"
  | eofInString => "EOF while parsing a string"
  | eofInValue => "EOF while parsing a value"
  | expectedColon => "expected `:`"
  | expectedListCommaOrEnd => "expected `,` or `]`"
  | expectedObjectCommaOrEnd => "expected `,` or `\x7d`"
  | expectedIdent => "expected ident"
  | expectedValue => "expected value"
  | invalidEscape => "invalid escape"
  | invalidNumber => "invalid number"
  | numberOutOfRange => "number out of range"
  | controlCharacter => "control character (\\u0000-\\u001F) found while parsing a string"
  | keyMustBeString => "key must be a string"
  | loneSurrogate => "lone leading surrogate in hex escape"
  | endOfHexEscape => "unexpected end of hex escape"
  | trailingComma => "trailing comma"
  | trailingCharacters => "trailing characters"
  | mismatch text => text

end Problem

/-- A problem and how many bytes of the text were left where it was found. -/
structure Fault where
  problem : Problem
  remaining : Nat
deriving DecidableEq

/-- The bytes that characters take in UTF-8. -/
def byteLength (cs : List Char) : Nat :=
  cs.foldl (fun n c => n + c.utf8Size) 0

/-- A fault right before the remaining characters. -/
def Fault.before (problem : Problem) (rest : List Char) : Fault :=
  ⟨problem, byteLength rest⟩

/-- A fault at the first of the remaining characters, which was looked at but not taken; at the end
of the text it is right there. -/
def Fault.at (problem : Problem) (rest : List Char) : Fault :=
  ⟨problem, byteLength rest - 1⟩

/-- The line and column after some bytes of a text, given the line and column so far: the column
counts bytes since the line began. -/
def lineColumn (bytes : List UInt8) : (line column left : Nat) → Nat × Nat
  | line, column, 0 => (line, column)
  | line, column, left + 1 =>
    match bytes with
    | [] => (line, column)
    | b :: bs =>
      if b = 10 then lineColumn bs (line + 1) 0 left else lineColumn bs line (column + 1) left

/-- The text of a fault in a JSON text, with its line and column. -/
def Fault.message (f : Fault) (text : String) : String :=
  let bytes := text.toUTF8.data.toList
  let (line, column) := lineColumn bytes 1 0 (bytes.length - f.remaining)
  s!"{f.problem.message} at line {line} column {column}"

end PathSeal.Json
