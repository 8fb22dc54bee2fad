import PathSeal.Config.Environment
import PathSeal.Envelope.Codec
import PathSeal.KeyMap.Mapping
import PathSeal.Kms.Google
import PathSeal.Retry
import PathSeal.Text.Token

/-!
# PathSeal.Config.Settings

The settings of a deployment: read from the environment, checked as a whole, and
turned into what the parts of the service need.
-/

namespace PathSeal

/-- The settings of a deployment. -/
structure Config where
  keyMapping : String
  algorithm : Cipher.Algorithm
  /-- The longest wait for a call to a key service, in milliseconds. -/
  kmsTimeoutMillis : UInt64
  kmsMaxAttempts : UInt32
  /-- The wait before the second attempt, in milliseconds. -/
  kmsRetryBaseMillis : UInt64
  listenPort : UInt16
  objectPathHeader : String
  maxObjectBytes : UInt64
  encryptionDisabled : Bool
  verifyKeysOnStartup : Bool
  cloudEndpoint : String
  accessToken : Option String
  localSeed : Option String
  telemetryEndpoint : Option String
  logLevel : String
deriving DecidableEq

namespace Config

/-! ## Reading -/

/-- The settings in an environment. The mapping has no default; every other setting has. -/
def ofEnvironment (env : Environment) : Except Error Config := do
  let algorithm ← readAlgorithm env "aead_algorithm"
  let kmsTimeoutMillis ← readWhole env "kms_timeout_ms" 10000
  let kmsMaxAttempts ← readNarrow env "kms_max_attempts" 32 3
  let kmsRetryBaseMillis ← readWhole env "kms_retry_base_ms" 100
  let listenPort ← readNarrow env "listen_port" 16 9080
  let maxObjectBytes ← readWhole env "max_object_bytes" 268435456
  let encryptionDisabled ← readBoolean env "encryption_disabled" false
  let verifyKeysOnStartup ← readBoolean env "verify_keys_on_startup" true
  let objectPathHeader ← readText env "object_path_header" "X-Object-Path"
  let cloudEndpoint ← readText env "gcp_kms_endpoint" Kms.Google.defaultEndpoint
  let accessToken ← readText? env "a string" "gcp_access_token"
  let localSeed ← readText? env "a string" "local_kms_seed"
  let telemetryEndpoint ← readText? env "a string" "otel_exporter_otlp_endpoint"
  let logLevel ← readText env "log_level" "info"
  match ← readText? env "a string" "kms_bucket_key_mapping" with
  | none => throw (.value (.missing "kms_bucket_key_mapping"))
  | some keyMapping =>
    return {
      keyMapping
      algorithm
      kmsTimeoutMillis
      kmsMaxAttempts := kmsMaxAttempts.toUInt32
      kmsRetryBaseMillis
      listenPort := listenPort.toUInt16
      objectPathHeader
      maxObjectBytes
      encryptionDisabled
      verifyKeysOnStartup
      cloudEndpoint
      accessToken
      localSeed
      telemetryEndpoint
      logLevel }

/-! ## What the parts of the service need -/

/-- The routing table. -/
def keyMap (c : Config) : Except Error KeyMap :=
  (KeyMap.parse c.keyMapping).mapError .mapping

/-- The settings of the codec. -/
def codecOptions (c : Config) : Envelope.Options where
  algorithm := c.algorithm
  kmsTimeout := .ofMillis c.kmsTimeoutMillis

/-- The settings of further attempts. -/
def retryPolicy (c : Config) : RetryPolicy where
  maxAttempts := c.kmsMaxAttempts
  baseDelay := .ofMillis c.kmsRetryBaseMillis

/-- The seed for master keys in the process. White space around it does not count. -/
def seed (c : Config) : Except SeedFault Bytes :=
  match c.localSeed with
  | none => .error .missing
  | some text =>
    match Base64.decode (Bytes.ofString (Text.trim text)) with
    | .error e => .error (.notBase64 e)
    | .ok seed => if seed.length < Kms.minSeedLength then .error .tooShort else .ok seed

/-! ## Checking -/

/-- Whether a text is empty but for white space. -/
def isBlank (s : String) : Bool :=
  Text.trimChars s.toList == []

/-- Whether a handle belongs to master keys in the process. -/
def isInProcess (key : Key.Handle) : Bool :=
  key.scheme == .inProcess

/-- Checks settings as a whole and reports the first fault. -/
def validate (c : Config) : Except Error Unit := do
  if isBlank c.keyMapping then throw .emptyMapping
  let map ← c.keyMap
  if !Text.isHeaderName c.objectPathHeader then throw (.header c.objectPathHeader)
  if c.kmsTimeoutMillis = 0 then throw .noTimeout
  if c.kmsMaxAttempts = 0 then throw .noAttempts
  if c.maxObjectBytes = 0 then throw .noObjectBytes
  if c.accessToken.any isBlank then throw .emptyToken
  if map.handles.any isInProcess then
    match c.seed with
    | .error e => throw (.seed e)
    | .ok _ => return ()

/-- The checked settings in an environment. -/
def load (env : Environment) : Except Error Config := do
  let c ← ofEnvironment env
  c.validate
  return c

/-! ## Showing -/

/-- A secret that may be absent, as dumps show it. -/
def redacted (secret : Option String) : String :=
  Text.quotedOption (secret.map fun _ => "[REDACTED]")

/-- The dump of settings. Secrets are not shown. -/
def dump (c : Config) : String :=
  let fields : List (String × String) :=
    [("kms_bucket_key_mapping", Text.quoted c.keyMapping),
      ("aead_algorithm", c.algorithm.label),
      ("kms_timeout_ms", toString c.kmsTimeoutMillis.toNat),
      ("kms_max_attempts", toString c.kmsMaxAttempts.toNat),
      ("kms_retry_base_ms", toString c.kmsRetryBaseMillis.toNat),
      ("listen_port", toString c.listenPort.toNat),
      ("object_path_header", Text.quoted c.objectPathHeader),
      ("max_object_bytes", toString c.maxObjectBytes.toNat),
      ("encryption_disabled", toString c.encryptionDisabled),
      ("verify_keys_on_startup", toString c.verifyKeysOnStartup),
      ("gcp_kms_endpoint", Text.quoted c.cloudEndpoint),
      ("gcp_access_token", redacted c.accessToken),
      ("local_kms_seed", redacted c.localSeed),
      ("otel_exporter_otlp_endpoint", Text.quotedOption c.telemetryEndpoint),
      ("log_level", Text.quoted c.logLevel)]
  let written := ", ".intercalate (fields.map fun (name, value) => s!"{name}: {value}")
  s!"Config \x7b {written} \x7d"

end Config
end PathSeal
