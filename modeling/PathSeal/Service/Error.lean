import PathSeal.Envelope.Error
import PathSeal.KeyMap.Error

/-!
# PathSeal.Service.Error

The faults that a client of the service sees. Each has a status and a short code
for machines.
-/

namespace PathSeal.Service

/-- A fault as the client sees it. -/
inductive Error where
  /-- The request or envelope is invalid, or an integrity check failed. -/
  | badRequest (detail : String)
  /-- The key is missing, disabled, or not for this service to use. -/
  | forbidden (detail : String)
  /-- The key service cannot be reached for now. -/
  | unavailable (detail : String)
  /-- Something unexpected. -/
  | internal (detail : String)
deriving DecidableEq

namespace Error

/-- The status of the response. -/
def status : Error → Nat
  | badRequest _ => 400
  | forbidden _ => 403
  | unavailable _ => 503
  | internal _ => 500

/-- The code for machines. -/
def code : Error → String
  | badRequest _ => "bad_request"
  | forbidden _ => "forbidden"
  | unavailable _ => "service_unavailable"
  | internal _ => "internal_error"

/-- The text for people. -/
def message : Error → String
  | badRequest detail => s!"bad request: {detail}"
  | forbidden detail => s!"forbidden: {detail}"
  | unavailable detail => s!"service unavailable: {detail}"
  | internal detail => s!"internal error: {detail}"

/-- What the client is told of a fault of sealing or opening. For every integrity fault it is told
the same: the cause stays in the logs. -/
def ofEnvelope (e : Envelope.Error) : Error :=
  match e.kind with
  | .kmsUnavailable => unavailable e.message
  | .kmsAccessDenied | .kmsKeyNotFound => forbidden e.message
  | .kmsIntegrity | .authenticationFailure => badRequest "envelope failed integrity check"
  | .malformedEnvelope | .invalidObjectIdentity => badRequest e.message
  | .internal => internal "envelope operation failed"

/-- What the client is told of a path without a key. -/
def ofKeyMap (e : KeyMap.Error) : Error :=
  match e with
  | .unmapped _ => forbidden e.message
  | _ => badRequest e.message

end Error
end PathSeal.Service
