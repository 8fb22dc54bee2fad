import PathSeal.Base64
import PathSeal.KeyMap.Error
import PathSeal.Kms.Local

/-!
# PathSeal.Config.Error

Why the settings of a deployment cannot be used. A fault is a short text and
possibly a cause beneath it.
-/

namespace PathSeal.Config

/-- Why the seed for master keys in the process cannot be used. -/
inductive SeedFault where
  | missing
  | notBase64 (cause : Base64.Fault)
  | tooShort
deriving DecidableEq

/-- The texts of a seed fault, outermost first. -/
def SeedFault.chain : SeedFault → List String
  | missing => ["LOCAL_KMS_SEED is required when local-kms:// keys are mapped"]
  | notBase64 cause => ["LOCAL_KMS_SEED is not valid base64", cause.message]
  | tooShort => [s!"LOCAL_KMS_SEED must decode to at least {Kms.minSeedLength} bytes"]

/-- Why a variable does not hold what its setting needs. -/
inductive ValueFault where
  /-- The text is not of the kind of the setting. -/
  | notA (kind text name : String)
  /-- The number has more bits than the setting. -/
  | tooLarge (bits n : Nat) (name : String)
  /-- The setting is a table or a list instead of a text. -/
  | structured (shape kind name : String)
  | unknownAlgorithm (text : String)
  /-- The algorithm is neither a text nor a table with one key. -/
  | notAName
  | missing (name : String)
deriving DecidableEq

/-- The text of a fault of a variable. -/
def ValueFault.message : ValueFault → String
  | notA kind text name =>
    s!"invalid type: string {Text.quoted text}, expected {kind} " ++
      s!"for key \x60{name}\x60 in the environment"
  | tooLarge bits n name =>
    s!"invalid type: 64-bit unsigned integer \x60{n}\x60, " ++
      s!"expected an unsigned {bits} bit integer for key \x60{name}\x60"
  | structured shape kind name =>
    s!"invalid type: {shape}, expected {kind} for key \x60{name}\x60"
  | notAName =>
    "value of enum AeadAlgorithm should be represented by either string or table with " ++
      "exactly one key"
  | unknownAlgorithm text => s!"enum AeadAlgorithm does not have variant constructor {text}"
  | missing name => s!"missing field \x60{name}\x60"

/-- Why settings cannot be used. -/
inductive Error where
  | value (fault : ValueFault)
  | emptyMapping
  | mapping (cause : KeyMap.Error)
  | header (name : String)
  | noTimeout
  | noAttempts
  | noObjectBytes
  | emptyToken
  | seed (fault : SeedFault)
deriving DecidableEq

/-- The texts of a fault and of what lies beneath it, outermost first. -/
def Error.chain : Error → List String
  | value fault => ["failed to deserialise configuration", fault.message]
  | emptyMapping => ["KMS_BUCKET_KEY_MAPPING is required and must not be empty"]
  | mapping cause => "KMS_BUCKET_KEY_MAPPING is invalid" :: cause.chain
  | header name =>
    [s!"OBJECT_PATH_HEADER {Text.quoted name} is not a valid header name",
      "invalid HTTP header name"]
  | noTimeout => ["KMS_TIMEOUT_MS must be > 0"]
  | noAttempts => ["KMS_MAX_ATTEMPTS must be >= 1"]
  | noObjectBytes => ["MAX_OBJECT_BYTES must be > 0"]
  | emptyToken => ["GCP_ACCESS_TOKEN must not be empty when set"]
  | seed fault => fault.chain

end PathSeal.Config
