/-!
# PathSeal.Kms.Error

What can go wrong in a call to a key management service. Only an unavailable
service is worth another try.
-/

namespace PathSeal.Kms

/-- Why a service did not wrap or unwrap a key. -/
inductive Error where
  | unavailable (detail : String)
  | accessDenied (detail : String)
  | keyNotFound (detail : String)
  | integrity (detail : String)
deriving DecidableEq

namespace Error

/-- The text of a service fault. -/
def message : Error → String
  | unavailable detail => s!"KMS unavailable: {detail}"
  | accessDenied detail => s!"KMS access denied: {detail}"
  | keyNotFound detail => s!"KMS key not found: {detail}"
  | integrity detail => s!"KMS integrity error: {detail}"

/-- Whether the same call may succeed later. -/
def isRetryable : Error → Bool
  | unavailable _ => true
  | _ => false

end Error
end PathSeal.Kms
