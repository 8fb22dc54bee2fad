import PathSeal.Text.Hex
import PathSeal.Text.Split

/-!
# PathSeal.Text.Table

Tables about characters, written as text. A row is about a code point or a range
of them, in hexadecimal with small letters: `41`, `41-5a`, or `100-12e/2` for
every second one. A mark may follow and numbers after it, as in `41-5a>20`; what
they say is up to the table. Rows stand in rising order with blanks between
them.
-/

namespace PathSeal.Text

/-- A row of a table: every `step`-th code point of a range, and what is said about it. -/
structure Row where
  first : Nat
  last : Nat
  step : Nat
  mark : Option Char
  numbers : List Nat
deriving DecidableEq

/-- Rows in rising order. -/
abbrev Table := Array Row

/-- The number that hexadecimal digits stand for. -/
def ofHexDigits (cs : List Char) : Nat :=
  cs.foldl (fun n c => 16 * n + (hexDigit? c).getD 0) 0

namespace Row

/-- Whether a row is about a code point. -/
def holds (row : Row) (code : Nat) : Bool :=
  row.first ≤ code && code ≤ row.last && (code - row.first) % row.step == 0

/-- Whether a character belongs to the range that a row begins with. -/
def isRangeChar (c : Char) : Bool :=
  c.isDigit || ('a' ≤ c && c ≤ 'f') || c == '-' || c == '/'

/-- The row that is written in some characters. -/
def ofChars (cs : List Char) : Row :=
  let range := cs.takeWhile isRangeChar
  let rest := cs.dropWhile isRangeChar
  let (first, last, step) :=
    match fields (fun c => c == '-' || c == '/') range with
    | [first] => (ofHexDigits first, ofHexDigits first, 1)
    | [first, last] => (ofHexDigits first, ofHexDigits last, 1)
    | first :: last :: step :: _ => (ofHexDigits first, ofHexDigits last, ofHexDigits step)
    | [] => (0, 0, 1)
  let numbers := match rest.drop 1 with
    | [] => []
    | numbers => (fields (· == ',') numbers).map ofHexDigits
  { first, last, step, mark := rest.head?, numbers }

end Row

namespace Table

/-- The table that is written in some lines. -/
def ofLines (lines : List String) : Table :=
  (lines.flatMap fun line => (fields (· == ' ') line.toList).map Row.ofChars).toArray

/-- The row about a character. -/
def row? (t : Table) (c : Char) : Option Row :=
  t.find? (·.holds c.toNat)

/-- Whether a table has a row about a character. -/
def contains (t : Table) (c : Char) : Bool :=
  (t.row? c).isSome

end Table
end PathSeal.Text
