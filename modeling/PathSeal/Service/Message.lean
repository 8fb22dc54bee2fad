import PathSeal.Base64
import PathSeal.Digest.Md5
import PathSeal.Service.Body
import PathSeal.Text.Split
import PathSeal.Text.Token

/-!
# PathSeal.Service.Message

Requests to the service and its responses, as far as they matter.
-/

namespace PathSeal.Service

/-! ## Requests -/

/-- A request with its headers in order and its whole body. -/
structure Request where
  method : String
  /-- The target: a path, or a URL. -/
  target : String
  headers : List (String × Bytes)
  body : Bytes
deriving DecidableEq

namespace Request

/-- The path of a target without query and fragment, exactly as written. Of a URL it is what follows
the host. -/
def path (r : Request) : String :=
  let cs := r.target.toList
  let cs := if cs.head? = some '/' then cs
    else match Text.splitOnce [':', '/', '/'] cs with
      | some (_, rest) => rest.dropWhile fun c => c != '/' && c != '?' && c != '#'
      | none => cs
  String.ofList (cs.takeWhile fun c => c != '?' && c != '#')

/-- The first value of a header. -/
def header? (r : Request) (name : String) : Option Bytes :=
  (r.headers.find? fun (n, _) => Text.sameHeaderName n name).map (·.2)

end Request

/-! ## Responses -/

/-- A response. -/
structure Response where
  status : Nat
  contentType : Option String
  /-- The digest of the body, for the metadata of the object. -/
  contentMd5 : Option String
  /-- The methods that would have been allowed. -/
  allow : Option String
  body : Bytes
deriving DecidableEq

/-- The base64 digest of a body. -/
def contentMd5 (body : Bytes) : String :=
  Base64.encodeString (Digest.md5 body)

namespace Response

/-- A response without a body. -/
def bare (status : Nat) : Response :=
  ⟨status, none, none, none, []⟩

/-- A response with bytes and their digest. -/
def octets (body : Bytes) : Response :=
  ⟨200, some "application/octet-stream", some (Service.contentMd5 body), none, body⟩

/-- A response with a JSON body. -/
def json (status : Nat) (body : Json.Value) : Response :=
  ⟨status, some "application/json", none, none, Bytes.ofString body.compact⟩

/-- The response to a request that failed. -/
def ofError (e : Error) : Response :=
  json e.status (ErrorBody.ofError e).toJson

/-- The response to a request for something that is not there. -/
def notFound : Response :=
  json 404 (ErrorBody.toJson ⟨"not_found", "the requested resource does not exist"⟩)

/-- The response to a request with a method that its path does not have. -/
def methodNotAllowed (allow : String) : Response :=
  { bare 405 with allow := some allow }

/-- The response to a request whose body is too long. -/
def tooLarge : Response :=
  ⟨413, some "text/plain; charset=utf-8", none, none,
    Bytes.ofString "Failed to buffer the request body: length limit exceeded"⟩

/-- The response to a request that took too long. -/
def timedOut : Response := bare 408

end Response
end PathSeal.Service
