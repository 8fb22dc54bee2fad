import PathSeal.Base64
import PathSeal.Json.Outline
import PathSeal.Json.Value
import PathSeal.Kms.Wrapper

/-!
# PathSeal.Kms.Amazon

Key management by AWS KMS, with its `Encrypt` and `Decrypt` operations. Bytes
are base64 in JSON.

The other end of the wire is a parameter, as for any backend that is reached
over a network. Its faults have codes; an unknown code counts as a refusal, a
missing one as an outage.
-/

namespace PathSeal.Kms.Amazon

/-! ## The wire -/

/-- The two operations of the key service. -/
inductive Operation where
  | encrypt
  | decrypt
deriving DecidableEq

namespace Operation

/-- The name of an operation. -/
def name : Operation → String
  | encrypt => "Encrypt"
  | decrypt => "Decrypt"

/-- The field of the request that holds the bytes. -/
def given : Operation → String
  | encrypt => "Plaintext"
  | decrypt => "CiphertextBlob"

/-- The field of the answer that holds the bytes. -/
def wanted : Operation → String
  | encrypt => "CiphertextBlob"
  | decrypt => "Plaintext"

/-- The other fields of an answer that hold texts. -/
def otherTexts : Operation → List String
  | encrypt => ["KeyId", "EncryptionAlgorithm"]
  | decrypt => ["KeyId", "EncryptionAlgorithm", "KeyMaterialId"]

/-- The other fields of an answer that hold bytes. -/
def otherBytes : Operation → List String
  | encrypt => []
  | decrypt => ["CiphertextForRecipient"]

/-- What the field of an answer is called in messages. -/
def wantedNoun : Operation → String
  | encrypt => "ciphertext"
  | decrypt => "plaintext"

/-- The codes of the faults that an operation declares. Their body is an object that may have a
message. -/
def declaredFaults (op : Operation) : List String :=
  ["DependencyTimeoutException", "DisabledException", "DryRunOperationException",
    "InvalidGrantTokenException", "InvalidKeyUsageException", "KeyUnavailableException",
    "KMSInternalException", "KMSInvalidStateException", "NotFoundException"] ++
  match op with
  | encrypt => []
  | decrypt => ["IncorrectKeyException", "InvalidCiphertextException"]

end Operation

/-- A request: the target that names the operation, and the body. -/
structure Request where
  target : String
  body : String
deriving DecidableEq

/-- What comes of a request. -/
inductive Reply where
  /-- An answer, with the code of a fault if a header gives it. -/
  | response (status : Nat) (faultHeader : Option String) (body : String)
  /-- The request or the answer was lost. -/
  | lost
deriving DecidableEq

/-- The other end. -/
abbrev Peer (τ : Type) := Request → StateM τ Reply

/-- A peer that cannot be reached. -/
def Peer.unreachable : Peer τ := fun _ => pure .lost

/-- The request for an operation on a key. -/
def request (op : Operation) (key : Key.Handle) (bytes : Bytes) : Request where
  target := s!"TrentService.{op.name}"
  body := (Json.Value.object
    [("KeyId", .text key.resource), (op.given, .text (Base64.encodeString bytes))]).compact

/-! ## Faults -/

/-- What a fault with a code means. -/
def faultOfCode (code : Option String) (detail : String) : Error :=
  match code with
  | some "InvalidCiphertextException" | some "IncorrectKeyException" => .integrity detail
  | some "NotFoundException" | some "InvalidArnException" => .keyNotFound detail
  | some "AccessDeniedException" | some "DisabledException" | some "KMSInvalidStateException"
  | some "InvalidKeyUsageException" | some "UnrecognizedClientException" => .accessDenied detail
  | some "DependencyTimeoutException" | some "KMSInternalException" | some "ThrottlingException"
  | some "LimitExceededException" | none => .unavailable detail
  | some _ => .accessDenied detail

/-- A code without the link after its first colon and the name space up to its first number sign. -/
def bareCode (code : String) : String :=
  let cs := code.toList.takeWhile (· ≠ ':')
  match cs.dropWhile (· ≠ '#') with
  | _ :: rest => String.ofList rest
  | [] => String.ofList cs

/-- The outline of a body; an empty one counts as an empty object. -/
def outline (body : String) : Json.Outline :=
  if body.isEmpty then .object [] else .ofText body

/-- What a member says as written, if it is a text under one of some keys. -/
def textUnder? (keys : List String) (m : Json.Member) : Option (List Char) :=
  match m.value with
  | .text raw => if keys.contains (String.ofList m.key) then some raw else none
  | _ => none

/-- The members of a fault that are read before its code is known, by their keys as written. -/
def readFirst : List String := ["code", "__type", "message", "Message", "errorMessage"]

/-- The text of the last member with a key. -/
def lastText? (members : List Json.Member) (key : String) : Option String :=
  (members.filterMap (textUnder? [key])).getLast?.bind Json.unescaped?

/-- The code that members give, if all that are read can be. -/
def codeOfMembers? (members : List Json.Member) : Option (Option String) :=
  if (members.filterMap (textUnder? readFirst)).all fun raw => (Json.unescaped? raw).isSome then
    some (lastText? members "code" <|> lastText? members "__type")
  else none

/-- Whether a text can be read, or nothing is there. -/
def isTextOrNull : Json.Leaf → Bool
  | .text raw => (Json.unescaped? raw).isSome
  | .null => true
  | .other => false

/-- Whether members fit a declared fault: all keys can be read, and a message is a text or
absent. -/
def fitsDeclared (members : List Json.Member) : Bool :=
  members.all fun m =>
    match Json.unescaped? m.key with
    | some key => key ≠ "message" || isTextOrNull m.value
    | none => false

/-- The code of a fault: the header's, else the body's. A body that cannot be read has none, nor has
a declared fault with a body that does not fit it. -/
def faultCode? (op : Operation) (faultHeader : Option String) (body : String) : Option String := do
  let (written, fits) ← match outline body with
    | .object members => do
      let code ← codeOfMembers? members
      some (faultHeader <|> code, fitsDeclared members)
    | .blank | .other => some (faultHeader, false)
    | .malformed => none
  let code := bareCode (← written)
  if op.declaredFaults.contains code && !fits then none else some code

/-! ## Answers -/

/-- The bytes that a value holds in base64, if it is not null. Escapes are no part of base64. -/
def bytesOrNull : Json.Leaf → Except Unit (Option Bytes)
  | .text raw =>
    match Base64.decode (Bytes.ofString (String.ofList raw)) with
    | .ok bytes => .ok (some bytes)
    | .error _ => .error ()
  | .null => .ok none
  | .other => .error ()

/-- Takes a member of an answer, with the bytes found so far. -/
def takeMember (op : Operation) (found : Option Bytes) (m : Json.Member) :
    Except Unit (Option Bytes) :=
  match Json.unescaped? m.key with
  | none => .error ()
  | some key =>
    if key = op.wanted then bytesOrNull m.value
    else if op.otherTexts.contains key then if isTextOrNull m.value then .ok found else .error ()
    else if op.otherBytes.contains key then do
      let _ ← bytesOrNull m.value
      return found
    else .ok found

/-- The bytes in the body of an answer; none if the field is absent. The last of several members
with its key counts. -/
def bytesOfBody (op : Operation) (body : String) : Except Unit (Option Bytes) :=
  match outline body with
  | .object members => members.foldlM (takeMember op) none
  | _ => .error ()

/-- The bytes in a reply. -/
def bytesOfReply (op : Operation) (key : Key.Handle) (reply : Reply) : Except Error Bytes :=
  let detail (text : String) := s!"{op.name} on {key}: {text}"
  match reply with
  | .lost => .error (.unavailable (detail "dispatch failure"))
  | .response status faultHeader body =>
    if 200 ≤ status ∧ status ≤ 299 then
      match bytesOfBody op body with
      | .error () => .error (.unavailable (detail "response error"))
      | .ok none =>
        .error (.unavailable s!"KMS {op.name} response contained no {op.wantedNoun}")
      | .ok (some bytes) => .ok bytes
    else .error (faultOfCode (faultCode? op faultHeader body) (detail "service error"))

/-! ## The backend -/

/-- The backend: the other end of the wire. -/
structure Service (τ : Type) where
  peer : Peer τ

namespace Service

/-- Has the key service carry out an operation on some bytes. -/
def call (s : Service τ) (op : Operation) (key : Key.Handle) (bytes : Bytes) :
    StateM (World τ) (Except Error Bytes) :=
  fun w =>
    let (reply, kms) := s.peer (request op key bytes) w.kms
    (bytesOfReply op key reply, { w with kms })

/-- The backend as a key service. -/
def wrapper (s : Service τ) : Wrapper τ where
  wrap key dek := do
    return .now ((← s.call .encrypt key dek).bind wrappedOfResponse)
  unwrap key wrapped := do
    return .now (← s.call .decrypt key wrapped.bytes)

end Service
end PathSeal.Kms.Amazon
