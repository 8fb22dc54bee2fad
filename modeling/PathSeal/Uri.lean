import PathSeal.Text.Split

/-!
# PathSeal.Uri

The form of addresses that messages are sent to over a wire. It is narrower than
that of URLs: only some ASCII characters may occur in each part, and an
authority has few colons and brackets.
-/

namespace PathSeal.Uri

/-- Why a text is no address. -/
inductive Fault where
  | empty
  | tooLong
  | character
  | schemeTooLong
  | authority
  | format
deriving DecidableEq

/-- The text of a fault of an address. -/
def Fault.message : Fault → String
  | empty => "empty string"
  | tooLong => "uri too long"
  | character => "invalid uri character"
  | schemeTooLong => "scheme too long"
  | authority => "invalid authority"
  | format => "invalid format"

/-- The longest address in bytes. -/
def maxLength : Nat := 65534

/-- The longest scheme. -/
def maxSchemeLength : Nat := 64

/-- Whether a character may occur in a scheme. -/
def isSchemeChar (c : Char) : Bool :=
  c.isAlphanum || c == '+' || c == '-' || c == '.'

/-- Whether a character may occur in an authority. -/
def isAuthorityChar (c : Char) : Bool :=
  c.isAlphanum || "!$&\x27()*+,-.:;=@[]_~%".toList.contains c

/-- Whether a character may occur in a path. -/
def isPathChar (c : Char) : Bool :=
  0x20 < c.toNat && c.toNat < 0x7f && c ≠ '<' && c ≠ '>' && c ≠ '\x60'

/-- Whether a character may occur in a query. -/
def isQueryChar (c : Char) : Bool :=
  0x20 < c.toNat && c.toNat < 0x7f && c ≠ '"' && c ≠ '<' && c ≠ '>'

/-- What follows the scheme, if there is one. -/
def afterScheme (cs : List Char) : Except Fault (Option (List Char)) :=
  let scheme := cs.takeWhile isSchemeChar
  match cs.dropWhile isSchemeChar with
  | ':' :: '/' :: '/' :: rest =>
    if maxSchemeLength < scheme.length then .error .schemeTooLong else .ok (some rest)
  | _ => .ok none

/-- What has been seen of an authority. -/
structure AuthorityScan where
  colons : Nat := 0
  opened : Bool := false
  closed : Bool := false
  percent : Bool := false

/-- Takes a character of an authority. -/
def scanAuthority (s : AuthorityScan) (c : Char) : Except Fault AuthorityScan :=
  if c = ':' then
    if 8 ≤ s.colons then .error .authority else .ok { s with colons := s.colons + 1 }
  else if c = '[' then
    if s.percent || s.opened then .error .authority else .ok { s with opened := true }
  else if c = ']' then
    if !s.opened || s.closed then .error .authority
    else .ok { s with closed := true, colons := 0, percent := false }
  else if c = '@' then .ok { s with colons := 0, percent := false }
  else if c = '%' then .ok { s with percent := true }
  else if isAuthorityChar c then .ok s
  else .error .character

/-- Checks the authority of an address. -/
def checkAuthority (cs : List Char) : Except Fault Unit := do
  let s ← cs.foldlM scanAuthority {}
  if s.opened != s.closed ∨ 1 < s.colons ∨ cs.getLast? = some '@' ∨ s.percent then
    throw .authority

/-- Checks path and query of an address. -/
def checkPath (cs : List Char) : Except Fault Unit :=
  let cs := cs.takeWhile (· ≠ '#')
  let path := cs.takeWhile (· ≠ '?')
  let query := (cs.dropWhile (· ≠ '?')).drop 1
  if path.all isPathChar && query.all isQueryChar then .ok () else .error .character

/-- Checks an address. -/
def check (s : String) : Except Fault Unit := do
  let cs := s.toList
  if maxLength < s.utf8ByteSize then throw .tooLong
  if cs = [] then throw .empty
  if cs = ['*'] then return
  if cs.head? = some '/' then checkPath cs
  else
    let isEnd (c : Char) := c == '/' || c == '?' || c == '#'
    match ← afterScheme cs with
    | some rest =>
      let authority := rest.takeWhile (!isEnd ·)
      checkAuthority authority
      if authority = [] then throw .format
      checkPath (rest.dropWhile (!isEnd ·))
    | none =>
      let authority := cs.takeWhile (!isEnd ·)
      checkAuthority authority
      if authority ≠ cs then throw (if cs.length = 1 then .character else .format)

end PathSeal.Uri
