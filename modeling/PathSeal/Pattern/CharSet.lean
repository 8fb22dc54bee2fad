import PathSeal.Text.Alphanumeric
import PathSeal.Text.Blank
import PathSeal.Text.CaseVariants

/-!
# PathSeal.Pattern.CharSet

Sets of characters, as patterns describe them: ranges and the classes of digits,
blanks and word characters, put together by the operations on sets.
-/

namespace PathSeal.Pattern

/-- A set of characters. -/
inductive CharSet where
  | empty
  /-- The characters from one to another. -/
  | range (first last : Char)
  /-- The decimal digits of all scripts. -/
  | digits
  /-- White space. -/
  | blanks
  /-- The characters that words are made of. -/
  | wordChars
  | union (a b : CharSet)
  | intersection (a b : CharSet)
  | difference (a b : CharSet)
  /-- What is in one of two sets, and not in both. -/
  | symmetric (a b : CharSet)
  | complement (a : CharSet)
  /-- What differs from a member at most in case. -/
  | anyCase (a : CharSet)
deriving DecidableEq

namespace CharSet

/-- Whether a character is in a set. -/
def contains : CharSet → Char → Bool
  | empty, _ => false
  | range first last, c => first ≤ c && c ≤ last
  | digits, c => Text.isDecimalDigit c
  | blanks, c => Text.isBlank c
  | wordChars, c => Text.isWordChar c
  | union a b, c => a.contains c || b.contains c
  | intersection a b, c => a.contains c && b.contains c
  | difference a b, c => a.contains c && !b.contains c
  | symmetric a b, c => a.contains c != b.contains c
  | complement a, c => !a.contains c
  | anyCase a, c => (Text.caseVariants c).any a.contains

/-- The set of one character. -/
def single (c : Char) : CharSet :=
  range c c

/-- The set of some ranges. -/
def ofRanges (ranges : List (Char × Char)) : CharSet :=
  ranges.foldl (fun s (first, last) => s.union (range first last)) empty

/-- The ASCII characters. -/
def ascii : CharSet :=
  range '\x00' '\x7f'

/-- The ASCII digits. -/
def asciiDigits : CharSet :=
  range '0' '9'

/-- The ASCII characters of words. -/
def asciiWordChars : CharSet :=
  ofRanges [('0', '9'), ('A', 'Z'), ('_', '_'), ('a', 'z')]

/-- The white space of ASCII. -/
def asciiBlanks : CharSet :=
  ofRanges [('\t', '\r'), (' ', ' ')]

/-- The set of ASCII characters that a name stands for. -/
def named? (name : List Char) : Option CharSet :=
  match String.ofList name with
  | "alnum" => some (ofRanges [('0', '9'), ('A', 'Z'), ('a', 'z')])
  | "alpha" => some (ofRanges [('A', 'Z'), ('a', 'z')])
  | "ascii" => some ascii
  | "blank" => some (ofRanges [('\t', '\t'), (' ', ' ')])
  | "cntrl" => some (ofRanges [('\x00', '\x1f'), ('\x7f', '\x7f')])
  | "digit" => some asciiDigits
  | "graph" => some (range '!' '~')
  | "lower" => some (range 'a' 'z')
  | "print" => some (range ' ' '~')
  | "punct" => some (ofRanges [('!', '/'), (':', '@'), ('[', '\x60'), ('\x7b', '~')])
  | "space" => some asciiBlanks
  | "upper" => some (range 'A' 'Z')
  | "word" => some asciiWordChars
  | "xdigit" => some (ofRanges [('0', '9'), ('A', 'F'), ('a', 'f')])
  | _ => none

end CharSet
end PathSeal.Pattern
