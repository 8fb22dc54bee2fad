import PathSeal.Server

/-!
# PathSeal.Main

The command. It takes its settings from the environment, writes the log to
standard output and complaints to the error channel, and ends with the exit code
of the run. Nothing is reached over a network from here: a mapping with remote
master keys fails its verification.
-/

namespace PathSeal.Main

/-- The variables that are read. -/
def names : List String :=
  ["KMS_BUCKET_KEY_MAPPING", "AEAD_ALGORITHM", "KMS_TIMEOUT_MS", "KMS_MAX_ATTEMPTS",
    "KMS_RETRY_BASE_MS", "LISTEN_PORT", "OBJECT_PATH_HEADER", "MAX_OBJECT_BYTES",
    "ENCRYPTION_DISABLED", "VERIFY_KEYS_ON_STARTUP", "GCP_KMS_ENDPOINT", "GCP_ACCESS_TOKEN",
    "LOCAL_KMS_SEED", "OTEL_EXPORTER_OTLP_ENDPOINT", "OTEL_EXPORTER_OTLP_COMPRESSION",
    "OTEL_EXPORTER_OTLP_TRACES_ENDPOINT", "OTEL_EXPORTER_OTLP_TRACES_COMPRESSION", "LOG_LEVEL",
    "RUST_LOG"]

/-- Those of the variables that are set, with their values. -/
def environment : IO Config.Environment :=
  names.filterMapM fun name => return (← IO.getEnv name).map (name, ·)

/-- More random bytes than the verification of the keys of any mapping draws. -/
def randomBytes : USize := 1048576

end PathSeal.Main

open PathSeal in
/-- Runs the program once. -/
def main : IO UInt32 := do
  let env ← Main.environment
  let entropy := Entropy.cyclic (← IO.getRandomBytes Main.randomBytes).data
  let (result, _) := Server.run env Kms.Google.Peer.unreachable Kms.Amazon.Peer.unreachable
    ⟨entropy, (⟨0, none, ()⟩, ())⟩
  for event in result.events do
    IO.println (Server.line event)
  IO.eprint result.errors
  return result.exit.toUInt32
