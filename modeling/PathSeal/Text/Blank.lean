/-!
# PathSeal.Text.Blank

White space and its removal at both ends of a text.
-/

namespace PathSeal.Text

/-- White space: the Unicode property `White_Space`. -/
def isBlank (c : Char) : Bool :=
  let n := c.toNat
  (9 ≤ n && n ≤ 13) || n == 0x20 || n == 0x85 || n == 0xa0 || n == 0x1680
    || (0x2000 ≤ n && n ≤ 0x200a) || n == 0x2028 || n == 0x2029 || n == 0x202f || n == 0x205f
    || n == 0x3000

/-- The characters without those at both ends that a test holds of. -/
def stripEnds (p : Char → Bool) (cs : List Char) : List Char :=
  ((cs.dropWhile p).reverse.dropWhile p).reverse

/-- The characters without white space at both ends. -/
def trimChars (cs : List Char) : List Char :=
  stripEnds isBlank cs

/-- The text without white space at both ends. -/
def trim (s : String) : String :=
  String.ofList (trimChars s.toList)

end PathSeal.Text
