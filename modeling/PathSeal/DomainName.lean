import PathSeal.DomainName.Direction
import PathSeal.DomainName.Joiner
import PathSeal.DomainName.Mapping
import PathSeal.DomainName.Punycode
import PathSeal.Text.Mark

/-!
# PathSeal.DomainName

The ASCII form of the name of a host (UTS 46, without transition). A name is
mapped and composed as a whole and then cut into labels. A label with other than
ASCII characters is written with the start `xn--`; a label that has this start
already must be one that is written so.
-/

namespace PathSeal.DomainName

/-- The start of a label that stands for one with other than ASCII characters. -/
def marker : List Char := ['x', 'n', '-', '-']

/-- The longest written label that is read. -/
def maxWritten : Nat := 2000

/-- The longest label that is written. -/
def maxLabel : Nat := 1000

/-- Whether a character is an ASCII one. -/
def isAscii (c : Char) : Bool := c.toNat < 0x80

/-- A label: its characters, and its ASCII form. -/
structure Label where
  chars : List Char
  ascii : List Char

/-- Whether the characters of a label can stand together: no mark begins it, and joiners stand where
they may. -/
def areProper (cs : List Char) : Bool :=
  joinersStand [] cs && match cs with
    | c :: _ => !Text.isMark c
    | [] => true

/-- Whether characters are those of a label that is written with the marker: not all ASCII, and as
mapping and composing leave them. -/
def areWritten (cs : List Char) : Bool :=
  !cs.all isAscii && cs.all stays && Text.composed cs == cs
    && (Text.dropPrefix? marker cs).isNone

/-- The label of some mapped characters. -/
def Label.ofMapped? (cs : List Char) : Option Label :=
  match Text.dropPrefix? marker cs with
  | some written => do
    if maxWritten < written.length then failure
    let chars ← Punycode.decode? written
    if areWritten chars && areProper chars then return ⟨chars, cs⟩ else failure
  | none =>
    if cs.all isAscii then some ⟨cs, cs⟩
    else if maxLabel < cs.length || !areProper cs then none
    else some ⟨cs, marker ++ Punycode.encode cs⟩

/-- The ASCII form of a name in which some characters are forbidden. Labels may be empty. -/
def toAscii? (isForbidden : Char → Bool) (name : List Char) : Option (List Char) := do
  let mapped ← name.mapM mapped?
  let labels ← (Text.fields (· == '.') (Text.composed mapped.flatten)).mapM Label.ofMapped?
  let chars := labels.map (·.chars)
  if chars.any (·.any isForbidden) || !haveDirections chars then failure
  return List.intercalate ['.'] (labels.map (·.ascii))

end PathSeal.DomainName
