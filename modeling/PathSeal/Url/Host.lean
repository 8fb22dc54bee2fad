import PathSeal.DomainName
import PathSeal.Url.Address
import PathSeal.Url.Percent

/-!
# PathSeal.Url.Host

Hosts in their normal form. The host of a special URL is a domain name or a
numeric address; any other host is kept as it is written, unless it is an
address in brackets.
-/

namespace PathSeal.Url

/-- Whether a character must not occur in a domain name. -/
def forbiddenInDomain (c : Char) : Bool :=
  c.toNat ≤ 0x20 || c.toNat == 0x7f || "#/:<>?@[\\]^|%".toList.contains c

/-- Whether a character must not occur in a host that is kept as it is written. -/
def forbiddenInHost (c : Char) : Bool :=
  "\x00\t\n\r #/:<>?@[\\]^|".toList.contains c

/-- The normal form of the host of a special URL. -/
def host? (cs : List Char) : Option (List Char) :=
  match cs with
  | '[' :: inside => bracketed? inside
  | cs => do
    let decoded ← decodedText? cs
    let name ← DomainName.toAscii? forbiddenInDomain decoded.toList
    if name = [] then none
    else
      let parts := Text.fields (· == '.') name
      if endsInNumber parts then address? parts else some name

/-- The normal form of the host of a URL that is not special. -/
def opaqueHost? (cs : List Char) : Option (List Char) :=
  match cs with
  | '[' :: inside => bracketed? inside
  | cs => if cs.any forbiddenInHost then none else some (encoded [] cs)

end PathSeal.Url
