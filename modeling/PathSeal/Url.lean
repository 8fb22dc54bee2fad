import PathSeal.Url.Host
import PathSeal.Url.Path

/-!
# PathSeal.Url

Absolute URLs in the normal form that requests use: the scheme and host in lower
case, a default port left out, dot segments resolved, and everything that may
not stand for itself percent-encoded.

A few schemes are special: they always have a host, and treat a backslash like
a slash. Without a host a URL keeps what follows its scheme as it is.
-/

namespace PathSeal

/-- The user that a URL names, encoded. -/
structure Url.User where
  name : List Char
  password : Option (List Char)
deriving DecidableEq

/-- An absolute URL in normal form. -/
structure Url where
  scheme : List Char
  user : Option Url.User := none
  /-- The host and, after a colon, the port. -/
  authority : Option (List Char)
  /-- The path with query and fragment. -/
  tail : List Char
deriving DecidableEq

namespace Url

/-- A user with the sign that follows it. -/
def User.text (user : User) : List Char :=
  match user.password with
  | some password => user.name ++ ':' :: password ++ ['@']
  | none => user.name ++ ['@']

/-- The text of a URL. -/
def text (u : Url) : String :=
  match u.authority with
  | some authority =>
    let user := (u.user.map User.text).getD []
    String.ofList (u.scheme ++ [':', '/', '/'] ++ user ++ authority ++ u.tail)
  | none => String.ofList (u.scheme ++ ':' :: u.tail)

/-- Whether requests can be sent to a URL. -/
def isHttp (u : Url) : Bool :=
  u.scheme == ['h', 't', 't', 'p'] || u.scheme == ['h', 't', 't', 'p', 's']

/-- Whether a URL names a host. -/
def hasHost (u : Url) : Bool :=
  match u.authority with
  | some (_ :: _) => true
  | _ => false

/-- Whether a user can be told apart from the URL: the name is a text, and either it is not empty or
the password is a text. -/
def User.isReadable (user : User) : Bool :=
  match decodedText? user.name with
  | some name => !name.isEmpty || (user.password.bind decodedText?).isSome
  | none => false

/-- The URL that a request is sent to. A user who can be read goes into a header instead. -/
def forRequest (u : Url) : Url :=
  if u.user.any User.isReadable then { u with user := none } else u

/-! ## Authorities -/

/-- The user before an authority, if it has a sign for one; the last such sign counts. -/
def user? (cs : List Char) : Option User :=
  let (name, rest) := spanUntil (· == ':') cs
  match rest with
  | _ :: c :: password => some ⟨encoded inUser name, some (encoded inUser (c :: password))⟩
  | _ => if name = [] then none else some ⟨encoded inUser name, none⟩

/-- The host that an authority begins with, and what follows it. Colons in brackets belong to it. -/
def spanHost (special : Bool) (inBrackets : Bool) : List Char → List Char × List Char
  | [] => ([], [])
  | c :: cs =>
    if (c == ':' && !inBrackets) || c == '/' || endsPath c || (special && c == '\\') then
      ([], c :: cs)
    else
      let inBrackets := if c = '[' then true else if c = ']' then false else inBrackets
      let (host, rest) := spanHost special inBrackets cs
      (c :: host, rest)

/-- The port after a host, with its colon, and what follows it. The default port is left out. -/
def port? (default : Option Nat) (cs : List Char) : Option (List Char × List Char) :=
  match cs with
  | ':' :: cs =>
    let digits := cs.takeWhile Char.isDigit
    let rest := cs.dropWhile Char.isDigit
    let n := Decimal.ofDigits digits
    let ends := match rest with
      | [] => true
      | c :: _ => c == '/' || c == '\\' || endsPath c
    if 65535 < n || !ends then none
    else if digits = [] ∨ default = some n then some ([], rest)
    else some (':' :: Nat.toDigits 10 n, rest)
  | cs => some ([], cs)

/-- The default port of a kind. -/
def Kind.port? : Kind → Option Nat
  | special port => some port
  | _ => none

/-- The URL of what follows the two slashes. A user needs a host. -/
def ofAuthority? (kind : Kind) (scheme cs : List Char) : Option Url := do
  let special := kind.isSpecial
  let (front, rest) := spanUntil (fun c => kind.isSlash c || endsPath c) cs
  let behind := (front.reverse.takeWhile (· ≠ '@')).reverse
  let before := front.take (front.length - behind.length - 1)
  let hasSign := front.contains '@'
  if hasSign && before == [] && behind == [] && rest != [] then failure
  let user := if hasSign then user? before else none
  let (host, rest) := spanHost special false (behind ++ rest)
  if host = [] ∧ (special ∨ user.isSome ∨ rest.head? = some ':') then failure
  let host ← if special then host? host else opaqueHost? host
  let (port, rest) ← port? kind.port? rest
  let (path, tail) := spanUntil endsPath rest
  return ⟨scheme, user, some (host ++ port), kind.path path ++ normalTail special tail⟩

/-! ## Files -/

/-- The URL of a file's path, before which a host may stand; a drive needs none. -/
def ofFilePath (host : List Char) (path tail : List Char) : Url :=
  let segments := Kind.file.segments path
  let isOnDrive := (segments.head?).any isDrive
  { scheme := ['f', 'i', 'l', 'e']
    authority := some (if isOnDrive then [] else host)
    tail := joined (withoutEmpty segments) ++ normalTail true tail }

/-- The URL of a file after the two slashes. Without a host the path is taken with its first slash,
so that a drive is not its first segment. -/
def ofFileHost? (cs : List Char) : Option Url :=
  let (host, rest) := spanUntil (fun c => Kind.file.isSlash c || endsPath c) cs
  let (path, tail) := spanUntil endsPath rest
  if isDrive host then some (ofFilePath [] (host ++ path) tail)
  else if host = [] then some (ofFilePath [] path tail)
  else do
    let name ← host? host
    if name = "localhost".toList then return ofFilePath [] path tail
    else return ofFilePath name (path.drop 1) tail

/-- The URL of a file after its scheme. -/
def ofFile? (cs : List Char) : Option Url :=
  let isSlash := Kind.file.isSlash
  let withoutHost (cs : List Char) : Url :=
    let (path, tail) := spanUntil endsPath cs
    ofFilePath [] path tail
  match cs with
  | a :: b :: rest =>
    if isSlash a && isSlash b then ofFileHost? rest
    else some (withoutHost (if isSlash a then b :: rest else cs))
  | [a] => some (withoutHost (if isSlash a then [] else [a]))
  | [] => some (withoutHost [])

/-! ## Whole URLs -/

/-- The kind of a scheme. -/
def Kind.ofScheme (scheme : List Char) : Kind :=
  match String.ofList scheme with
  | "file" => .file
  | "http" | "ws" => .special 80
  | "https" | "wss" => .special 443
  | "ftp" => .special 21
  | _ => .plain

/-- The URL of a plain scheme and what follows its colon. A path does not begin with two slashes
where an authority would be looked for. -/
def ofPlain? (scheme : List Char) : List Char → Option Url
  | '/' :: '/' :: rest => ofAuthority? .plain scheme rest
  | rest =>
    let (path, tail) := spanUntil endsPath rest
    let path := match path with
      | '/' :: cs =>
        match Kind.plain.segments cs with
        | [] :: segments@(_ :: _) => ['/', '.'] ++ joined ([] :: segments)
        | segments => joined segments
      | cs => encoded [] cs
    some { scheme, authority := none, tail := path ++ normalTail false tail }

/-- The URL of a scheme and what follows its colon. -/
def ofParts? (scheme rest : List Char) : Option Url :=
  match Kind.ofScheme scheme with
  | .file => ofFile? rest
  | .special port =>
    ofAuthority? (.special port) scheme (rest.dropWhile (Kind.special port).isSlash)
  | .plain => ofPlain? scheme rest

/-- The URL that a text stands for, if it is an absolute one. Blanks and control characters around
it, and tabs and line ends in it, do not count. -/
def parse? (s : String) : Option Url :=
  let outer c := decide ((c : Char).toNat ≤ 0x20)
  let inner := ((s.toList.dropWhile outer).reverse.dropWhile outer).reverse
  let cs := inner.filter fun c => c != '\t' && c != '\n' && c != '\r'
  let (scheme, rest) := spanUntil (· == ':') cs
  match scheme, rest with
  | first :: more, ':' :: rest =>
    if first.isAlpha && more.all fun c => c.isAlphanum || "+-.".toList.contains c then
      ofParts? (scheme.map Char.toLower) rest
    else none
  | _, _ => none

end Url
end PathSeal
