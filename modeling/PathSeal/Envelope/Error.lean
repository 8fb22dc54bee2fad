import PathSeal.Cipher.Aead
import PathSeal.Kms.Error

/-!
# PathSeal.Envelope.Error

Why an object could not be sealed or opened. The kind is the stable name for
logs and for choosing a status; only an unavailable key service is worth
another try, and only integrity faults point at tampering.
-/

namespace PathSeal

/-- Which integrity check failed. -/
inductive Envelope.IntegrityFailure where
  /-- The tag does not verify: another payload, another path or another key. -/
  | authentication
  /-- The key service rejected the wrapped key or gave back something that is no key. -/
  | wrappedKey (detail : String)
deriving DecidableEq

/-- The text of an integrity fault. -/
def Envelope.IntegrityFailure.message : Envelope.IntegrityFailure → String
  | authentication => "payload authentication failed"
  | wrappedKey detail => s!"wrapped key rejected: {detail}"

/-- Why an object could not be sealed or opened. -/
inductive Envelope.Error where
  | kmsUnavailable (detail : String)
  | kmsAccessDenied (detail : String)
  | kmsKeyNotFound (detail : String)
  | integrity (failure : Envelope.IntegrityFailure)
  | malformed (reason : String)
  | invalidIdentity (reason : String)
  | internal (detail : String)
deriving DecidableEq

/-- The stable classes of faults. -/
inductive Envelope.ErrorKind where
  | kmsUnavailable
  | kmsAccessDenied
  | kmsKeyNotFound
  | kmsIntegrity
  | authenticationFailure
  | malformedEnvelope
  | invalidObjectIdentity
  | internal
deriving DecidableEq

namespace Envelope

/-- The name of a class in logs. -/
def ErrorKind.name : ErrorKind → String
  | kmsUnavailable => "kms_unavailable"
  | kmsAccessDenied => "kms_access_denied"
  | kmsKeyNotFound => "kms_key_not_found"
  | kmsIntegrity => "kms_integrity"
  | authenticationFailure => "authentication_failure"
  | malformedEnvelope => "malformed_envelope"
  | invalidObjectIdentity => "invalid_object_identity"
  | internal => "internal"

namespace Error

/-- The text of a fault. -/
def message : Error → String
  | kmsUnavailable detail => s!"KMS unavailable: {detail}"
  | kmsAccessDenied detail => s!"KMS access denied: {detail}"
  | kmsKeyNotFound detail => s!"KMS key not found: {detail}"
  | integrity failure => s!"envelope integrity check failed: {failure.message}"
  | malformed reason => s!"malformed envelope: {reason}"
  | invalidIdentity reason => s!"invalid object identity: {reason}"
  | internal detail => s!"internal error: {detail}"

/-- The texts of a fault and of what lies beneath it, outermost first. -/
def chain : Error → List String
  | e@(integrity failure) => [e.message, failure.message]
  | e => [e.message]

/-- The class of a fault. -/
def kind : Error → ErrorKind
  | kmsUnavailable _ => .kmsUnavailable
  | kmsAccessDenied _ => .kmsAccessDenied
  | kmsKeyNotFound _ => .kmsKeyNotFound
  | integrity (.wrappedKey _) => .kmsIntegrity
  | integrity .authentication => .authenticationFailure
  | malformed _ => .malformedEnvelope
  | invalidIdentity _ => .invalidObjectIdentity
  | internal _ => .internal

/-- Whether another attempt may succeed. -/
def isRetryable : Error → Bool
  | kmsUnavailable _ => true
  | _ => false

/-- Whether the fault points at tampering, a wrong path or a wrong key. -/
def isSecurityViolation : Error → Bool
  | integrity _ => true
  | _ => false

/-- What a fault of the key service means for the object. -/
def ofKms : Kms.Error → Error
  | .unavailable detail => kmsUnavailable detail
  | .accessDenied detail => kmsAccessDenied detail
  | .keyNotFound detail => kmsKeyNotFound detail
  | .integrity detail => integrity (.wrappedKey detail)

/-- What a fault of the cipher means for the object. -/
def ofCipher (e : Cipher.CipherError) : Error :=
  match e with
  | .authentication => integrity .authentication
  | .nonceLength _ | .tagLength _ => malformed e.message
  | .keyLength _ | .primitive | .unknownAlgorithm _ => internal e.message

end Error
end Envelope
end PathSeal
