/-!
# PathSeal.Text.Token

Tokens as header names use them.
-/

namespace PathSeal.Text

/-- Whether a character may occur in a token: ASCII letters, digits and some signs. -/
def isTokenChar (c : Char) : Bool :=
  c.isAlphanum || "!#$%&\x27*+-.^_\x60|~".toList.contains c

/-- The longest header name. -/
def maxTokenLength : Nat := 65535

/-- Whether a text is a header name. -/
def isHeaderName (s : String) : Bool :=
  !s.isEmpty && s.length ≤ maxTokenLength && s.toList.all isTokenChar

/-- Whether two header names are the same: the case of letters does not count. -/
def sameHeaderName (a b : String) : Bool :=
  a.toList.map Char.toLower == b.toList.map Char.toLower

end PathSeal.Text
