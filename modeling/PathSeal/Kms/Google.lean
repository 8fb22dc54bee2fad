import PathSeal.Base64
import PathSeal.Json.Record
import PathSeal.Json.Value
import PathSeal.Kms.Wrapper
import PathSeal.Uri
import PathSeal.Url

/-!
# PathSeal.Kms.Google

Key management by Google Cloud KMS over its REST interface:

    POST {endpoint}/v1/{resource}:encrypt  {"plaintext": base64}   gives {"ciphertext": base64}
    POST {endpoint}/v1/{resource}:decrypt  {"ciphertext": base64}  gives {"plaintext": base64}

Requests carry an access token: a fixed one, or one from the metadata server of
the machine. The latter is kept until a minute before it expires.

The other end of the wire is a parameter: anything that answers requests.
-/

namespace PathSeal.Kms.Google

/-! ## The wire -/

/-- A request to the key service or the metadata server. -/
structure Request where
  method : String
  url : Url
  authorization : Option String
  metadataFlavor : Option String
  contentType : Option String
  body : String
deriving DecidableEq

/-- An answer to a request. -/
structure Response where
  status : Nat
  body : String
deriving DecidableEq

/-- Whether the status says that a request succeeded. -/
def Response.isSuccess (r : Response) : Bool :=
  200 ≤ r.status && r.status ≤ 299

/-- The other end: it answers a request or closes the connection. -/
abbrev Peer (σ : Type) := Request → StateM σ (Option Response)

/-- A peer that closes every connection. -/
def Peer.unreachable : Peer Unit := fun _ => pure none

/-- Why a request has no answer. -/
inductive SendError where
  /-- The request cannot be made. -/
  | unusable (url : Option Url)
  /-- The connection was closed. -/
  | closed (url : Url)
deriving DecidableEq

/-- The text of a fault of sending. -/
def SendError.message : SendError → String
  | unusable none => "builder error"
  | unusable (some url) => s!"builder error for url ({url.text})"
  | closed url => s!"error sending request for url ({url.text})"

/-- Whether a text may be the value of a header: no control characters other than tabs. -/
def isHeaderValue (s : String) : Bool :=
  s.toList.all fun c => c == '\t' || (0x20 ≤ c.toNat && c.toNat ≠ 0x7f)

/-- The URL that a request with some authorisation can be sent to. It must also have the narrower
form that goes over the wire. -/
def usableUrl (url : String) (authorization : Option String) : Except SendError Url :=
  match Url.parse? url with
  | none => .error (.unusable none)
  | some url =>
    if !url.hasHost then .error (.unusable (some url))
    else if !authorization.all isHeaderValue then .error (.unusable none)
    else
      let url := url.forRequest
      match url.isHttp, Uri.check url.text with
      | true, .ok () => .ok url
      | _, _ => .error (.unusable (some url))

/-! ## Access tokens -/

/-- Where access tokens come from. -/
inductive Credentials where
  | fixed (token : String)
  | metadataServer
deriving DecidableEq

/-- The dump of credentials, which shows no token. -/
def Credentials.dump : Credentials → String
  | fixed _ => "AccessToken([REDACTED])"
  | metadataServer => "MetadataServer"

/-- A token that was fetched, and the time in nanoseconds from which it is not used any more. -/
structure CachedToken where
  value : String
  refreshAt : Nat
deriving DecidableEq

/-- The time in nanoseconds, the token fetched last, and the state of the peer. -/
structure Session (σ : Type) where
  now : Nat
  token : Option CachedToken
  peer : σ

/-- The backend: where it is, its credentials, and the other end. -/
structure Service (σ : Type) where
  /-- Without slashes at its end. -/
  endpoint : String
  credentials : Credentials
  peer : Peer σ

/-- Where the metadata server gives tokens. -/
def metadataUrl : Url where
  scheme := "http".toList
  authority := some "metadata.google.internal".toList
  tail := "/computeMetadata/v1/instance/service-accounts/default/token".toList

/-- The request for a token. -/
def tokenRequest : Request where
  method := "GET"
  url := metadataUrl
  authorization := none
  metadataFlavor := some "Google"
  contentType := none
  body := ""

/-- The usual endpoint. -/
def defaultEndpoint : String := "https://cloudkms.googleapis.com"

/-- A token is not used in the last seconds before it expires. -/
def expiryMargin : Nat := 60

/-- What the metadata server gives. -/
def tokenSchema : Json.Schema where
  name := "MetadataToken"
  fields := [("access_token", .text), ("expires_in", .count "u64")]

/-- How long a token may be used, in nanoseconds, given its lifetime in seconds. -/
def usableNanos (lifetime : UInt64) : Nat :=
  (lifetime.toNat - expiryMargin) * 1000000000

namespace Service

/-- A backend at an endpoint. -/
def ofEndpoint (endpoint : String) (credentials : Credentials) (peer : Peer σ) : Service σ where
  endpoint := String.ofList (endpoint.toList.reverse.dropWhile (· == '/')).reverse
  credentials
  peer

/-- The dump of a backend. -/
def dump (s : Service σ) : String :=
  s!"GcpKmsWrapper \x7b endpoint: {Text.quoted s.endpoint}, credentials: {s.credentials.dump} \x7d"

/-- Sends a request and waits for the answer. -/
def exchange (s : Service σ) (request : Request) :
    StateM (Session σ) (Except SendError Response) :=
  fun session =>
    let (answer, peer) := s.peer request session.peer
    let outcome := match answer with
      | some response => .ok response
      | none => .error (.closed request.url)
    (outcome, { session with peer })

/-- The token in an answer of the metadata server. -/
def tokenOfResponse (r : Response) : Except Error (String × UInt64) :=
  if r.isSuccess then
    match tokenSchema.read r.body with
    | .ok (token, lifetime, ()) => .ok (token, lifetime)
    | .error _ =>
      .error (.unavailable "unreadable metadata token: error decoding response body")
  else if r.status = 404 ∨ r.status = 403 then
    .error (.accessDenied s!"metadata server has no service account token (HTTP {r.status})")
  else .error (.unavailable s!"metadata server returned HTTP {r.status}")

/-- Asks the metadata server for a token. -/
def fetchToken (s : Service σ) : StateM (Session σ) (Except Error (String × UInt64)) := do
  match ← s.exchange tokenRequest with
  | .error e => return .error (.unavailable s!"metadata server unreachable: {e.message}")
  | .ok response => return tokenOfResponse response

/-- The token fetched last, if it may still be used. -/
def freshToken? (session : Session σ) : Option String :=
  match session.token with
  | some token => if session.now < token.refreshAt then some token.value else none
  | none => none

/-- The token for the next request. A token is fetched only if none is at hand, and one that was
fetched is kept; a failure leaves what was kept as it is. -/
def accessToken (s : Service σ) : StateM (Session σ) (Except Error String) := do
  match s.credentials with
  | .fixed token => return .ok token
  | .metadataServer =>
    match freshToken? (← get) with
    | some token => return .ok token
    | none =>
      match ← s.fetchToken with
      | .error e => return .error e
      | .ok (token, lifetime) =>
        modify fun session =>
          { session with token := some ⟨token, session.now + usableNanos lifetime⟩ }
        return .ok token

end Service

/-! ## Encrypting and decrypting -/

/-- The two operations of the key service. -/
inductive Verb where
  | encrypt
  | decrypt
deriving DecidableEq

namespace Verb

/-- The name of an operation. -/
def name : Verb → String
  | encrypt => "encrypt"
  | decrypt => "decrypt"

/-- The field of the request. -/
def given : Verb → String
  | encrypt => "plaintext"
  | decrypt => "ciphertext"

/-- What the key service gives. -/
def schema : Verb → Json.Schema
  | encrypt => ⟨"EncryptResponse", [("ciphertext", .text)]⟩
  | decrypt => ⟨"DecryptResponse", [("plaintext", .text)]⟩

/-- The field of an answer. -/
def field (verb : Verb) (body : String) : Except Json.Fault String :=
  match verb with
  | encrypt => return (← (schema encrypt).read body).1
  | decrypt => return (← (schema decrypt).read body).1

end Verb

/-- Whether a text occurs in another. -/
def occurs (part whole : String) : Bool :=
  (Text.splitOnce part.toList whole.toList).isSome

/-- What a refusal of the key service means. A key version that is disabled or destroyed is reported
as a failed precondition. -/
def refusal (verb : Verb) (key : Key.Handle) (r : Response) : Error :=
  let detail := s!"{verb.name} on {key}: HTTP {r.status}"
  if r.status = 401 ∨ r.status = 403 then .accessDenied detail
  else if r.status = 404 then .keyNotFound detail
  else if r.status = 400 then
    if occurs "FAILED_PRECONDITION" r.body then .accessDenied detail
    else match verb with
      | .decrypt => .integrity detail
      | .encrypt => .keyNotFound detail
  else if r.status = 408 ∨ r.status = 429 ∨ 500 ≤ r.status then .unavailable detail
  else .accessDenied detail

/-- The bytes in an answer of the key service. -/
def bytesOfResponse (verb : Verb) (key : Key.Handle) (r : Response) : Except Error Bytes :=
  if !r.isSuccess then .error (refusal verb key r)
  else match verb.field r.body with
    | .error _ => .error
        (.unavailable s!"unreadable {verb.name} response: error decoding response body")
    | .ok text =>
      match Base64.decode (Bytes.ofString text) with
      | .ok bytes => .ok bytes
      | .error e => .error (.unavailable s!"undecodable {verb.name} response: {e.message}")

namespace Service

/-- The URL of an operation on a key. -/
def operationUrl (s : Service σ) (verb : Verb) (key : Key.Handle) : String :=
  s!"{s.endpoint}/v1/{key.resource}:{verb.name}"

/-- The request for an operation on a key. -/
def request (verb : Verb) (url : Url) (token : String) (bytes : Bytes) : Request where
  method := "POST"
  url
  authorization := some s!"Bearer {token}"
  metadataFlavor := none
  contentType := some "application/json"
  body := (Json.Value.object [(verb.given, .text (Base64.encodeString bytes))]).compact

/-- Has the key service carry out an operation on some bytes. -/
def call (s : Service σ) (verb : Verb) (key : Key.Handle) (bytes : Bytes) :
    StateM (Session σ) (Except Error Bytes) := do
  let unsent (e : SendError) : Error := .unavailable s!"{verb.name} on {key}: {e.message}"
  match ← s.accessToken with
  | .error e => return .error e
  | .ok token =>
    match usableUrl (s.operationUrl verb key) (some s!"Bearer {token}") with
    | .error e => return .error (unsent e)
    | .ok url =>
      match ← s.exchange (request verb url token bytes) with
      | .error e => return .error (unsent e)
      | .ok response => return bytesOfResponse verb key response

/-- Runs a computation on the state of the service. -/
def onSession (run : StateM (Session σ) α) : StateM (World (Session σ)) α :=
  fun w => let (a, session) := run w.kms; (a, { w with kms := session })

/-- The backend as a key service. -/
def wrapper (s : Service σ) : Wrapper (Session σ) where
  wrap key dek := do
    let answer ← onSession (s.call .encrypt key dek)
    return .now (answer.bind wrappedOfResponse)
  unwrap key wrapped := do
    return .now (← onSession (s.call .decrypt key wrapped.bytes))

end Service
end PathSeal.Kms.Google
