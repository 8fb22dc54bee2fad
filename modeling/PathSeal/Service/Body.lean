import PathSeal.Json.Record
import PathSeal.Json.Value
import PathSeal.Service.Error

/-!
# PathSeal.Service.Body

The JSON bodies of the service: faults and reports of its health. Sealing and
opening carry plain bytes instead.
-/

namespace PathSeal.Service

/-- What a client is told when a request fails. -/
structure ErrorBody where
  /-- A short code for machines. -/
  code : String
  /-- A text for people. -/
  message : String
deriving DecidableEq

namespace ErrorBody

/-- The body of a fault. -/
def ofError (e : Error) : ErrorBody := ⟨e.code, e.message⟩

/-- The body as JSON. -/
def toJson (b : ErrorBody) : Json.Value :=
  .object [("code", .text b.code), ("message", .text b.message)]

/-- The shape of the body. -/
def schema : Json.Schema where
  name := "ErrorResponse"
  fields := [("code", .text), ("message", .text)]

/-- The body that a JSON text holds. -/
def parse (s : String) : Except Json.Fault ErrorBody := do
  let (code, message, ()) ← schema.read s
  return ⟨code, message⟩

end ErrorBody

/-- What the service says of its health. -/
structure HealthBody where
  status : String
  /-- Whether objects are sealed at all. -/
  encryptionEnabled : Bool
  /-- How many master keys the mapping names. -/
  keysConfigured : UInt64
deriving DecidableEq

namespace HealthBody

/-- The body as JSON. -/
def toJson (b : HealthBody) : Json.Value :=
  .object [("status", .text b.status), ("encryption_enabled", .boolean b.encryptionEnabled),
    ("keys_configured", .count b.keysConfigured.toNat)]

/-- The shape of the body. -/
def schema : Json.Schema where
  name := "HealthResponse"
  fields :=
    [("status", .text), ("encryption_enabled", .boolean), ("keys_configured", .count "usize")]

/-- The body that a JSON text holds. -/
def parse (s : String) : Except Json.Fault HealthBody := do
  let (status, encryptionEnabled, keysConfigured, ()) ← schema.read s
  return ⟨status, encryptionEnabled, keysConfigured⟩

end HealthBody
end PathSeal.Service
