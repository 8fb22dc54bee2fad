import PathSeal.Bytes
import PathSeal.Text.Hex

/-!
# PathSeal.Url.Percent

Percent-encoding: a percent sign and two hexadecimal digits stand for a byte.
Each part of a URL has its own set of characters that are encoded; control
characters and those that are not ASCII are encoded everywhere.
-/

namespace PathSeal.Url

open Text (hexDigit?)

/-- One byte as a percent sign and two digits. -/
def percentByte (b : UInt8) : List Char :=
  ['%', (Nat.digitChar (b.toNat / 16)).toUpper, (Nat.digitChar (b.toNat % 16)).toUpper]

/-- The characters with those encoded that are control characters, not ASCII, or in a given set. -/
def encoded (also : List Char) (cs : List Char) : List Char :=
  cs.flatMap fun c =>
    if c.toNat < 0x20 || 0x7e < c.toNat || also.contains c then
      (Bytes.ofString (String.singleton c)).flatMap percentByte
    else [c]

/-- What is encoded in a fragment. -/
def inFragment : List Char := [' ', '"', '<', '>', '\x60']

/-- What is encoded in a path. -/
def inPath : List Char := inFragment ++ ['#', '?', '\x7b', '\x7d']

/-- What is encoded in the name and the password of a user. -/
def inUser : List Char := inPath ++ ['/', ':', ';', '=', '@', '[', '\\', ']', '^', '|']

/-- What is encoded in a query. -/
def inQuery (special : Bool) : List Char :=
  [' ', '"', '#', '<', '>'] ++ if special then ['\x27'] else []

/-- The bytes that a text stands for. A percent sign without two digits stands for itself. -/
def percentDecoded : List Char → Bytes
  | '%' :: a :: b :: cs =>
    match hexDigit? a, hexDigit? b with
    | some x, some y => UInt8.ofNat (16 * x + y) :: percentDecoded cs
    | _, _ => 37 :: percentDecoded (a :: b :: cs)
  | c :: cs => Bytes.ofString (String.singleton c) ++ percentDecoded cs
  | [] => []

/-- The text that a text stands for, if its bytes are one. -/
def decodedText? (cs : List Char) : Option String :=
  Bytes.toString? (percentDecoded cs)

end PathSeal.Url
