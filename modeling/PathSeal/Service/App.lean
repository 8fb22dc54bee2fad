import PathSeal.Envelope.Codec
import PathSeal.KeyMap.Mapping
import PathSeal.Retry
import PathSeal.Service.Message

/-!
# PathSeal.Service.App

The service that a proxy in front of an object store asks to seal and open
objects:

    POST /seal    the body sealed for the path in a header
    POST /open    the body opened for the path in a header
    GET  /health  what the service says of its health

A request passes the stages route, body limit, path header, key and codec, and
stops at the first that fails. Only the codec uses the key service.

The log of a request holds every event of the service, of the retries and of the
codec, whatever their level. It leaves out what lies outside these: a key service
behind a wire tells at debug level that it has wrapped a data key (one in the process
logs nothing), and the router notes the method and address of each request, its status
and how long it took.
-/

namespace PathSeal.Service

open Kms (World)

/-- The service: what it seals with, and its limits. -/
structure App (κ : Type) where
  codec : Envelope.Codec κ
  keyMap : KeyMap
  /-- The header that holds the object path. -/
  pathHeader : String
  retry : RetryPolicy
  /-- The longest plaintext. -/
  maxObjectBytes : UInt64
  /-- Without encryption, bodies are given back as they are. -/
  encryptionEnabled : Bool

/-- What comes of a request: the response, the time it took in milliseconds, and the log events. -/
structure Outcome where
  response : Response
  millis : Nat := 0
  events : List Log.Event := []
deriving DecidableEq

/-- A request may take less than this many milliseconds. -/
def requestTimeout : Nat := 60000

/-- The two operations on objects. -/
inductive Operation where
  | sealing
  | opening
deriving DecidableEq

/-- The name of an operation in the log. -/
def Operation.name : Operation → String
  | sealing => "seal"
  | opening => "open"

/-- The event of a fault of sealing or opening. What failed in an integrity check is named by its
class only. -/
def faultEvent (op : Operation) (path : String) (e : Envelope.Error) : Log.Event :=
  let about : List (String × Log.Value) :=
    [("op", .text op.name), ("object_path", .text path), ("kind", .text e.kind.name)]
  let target := "sealer::server::handlers"
  if e.isSecurityViolation then
    { level := .error, target, message := "envelope integrity violation", fields := about }
  else
    { level := if e.kind = .internal then .error else .warn
      target
      message := "envelope operation failed"
      fields := about ++ [("error", .text e.message)] }

namespace App

/-- The longest envelope: any plaintext within the limit fits once it is sealed. The limit itself is
a 64-bit number. -/
def maxEnvelopeBytes (app : App κ) : UInt64 :=
  let n := app.maxObjectBytes.toNat + Envelope.maxOverhead
  if n < UInt64.size then n.toUInt64 else 0xffffffffffffffff

/-- The longest body of an operation. -/
def bodyLimit (app : App κ) : Operation → Nat
  | .sealing => app.maxObjectBytes.toNat
  | .opening => app.maxEnvelopeBytes.toNat

/-- The object path of a request. A header whose name is no header name is never there. -/
def objectPath (app : App κ) (r : Request) : Except Error String :=
  let value := if Text.isHeaderName app.pathHeader then r.header? app.pathHeader else none
  match value with
  | none => .error (.badRequest s!"missing {app.pathHeader} header")
  | some bytes => match Bytes.toString? bytes with
    | none => .error (.badRequest s!"{app.pathHeader} header is not valid UTF-8")
    | some path => .ok path

/-- The object path of a request and its master key. -/
def pathAndKey (app : App κ) (r : Request) : Except Error (String × Key.Handle) := do
  let path ← app.objectPath r
  match app.keyMap.resolve path with
  | .ok key => return (path, key)
  | .error e => throw (.ofKeyMap e)

/-- One attempt at an operation, with what the codec logs of it. -/
def attemptLogged (app : App κ) (op : Operation) (key : Key.Handle) (path : String) (body : Bytes) :
    StateM (World κ) (Kms.Timed (Except Envelope.Error Envelope.Made)) :=
  match op with
  | .sealing => app.codec.sealLogged key path body
  | .opening => app.codec.openLogged key path body

/-- What the codec logs in a run of attempts. It logs a success only, and then there is no further
attempt. -/
def codecEvents : Option (Except Envelope.Error Envelope.Made) → List Log.Event
  | some (.ok made) => [made.event]
  | some (.error _) | none => []

/-- What a run of attempts comes to. The event of the codec comes after those of the attempts
before. -/
def settle (run : RetryPolicy.Run Envelope.Made) : RetryPolicy.Run Bytes :=
  (run.map (·.bytes)).logging (codecEvents run.outcome)

/-- The response to a run of attempts. -/
def respond (op : Operation) (path : String) (run : RetryPolicy.Run Bytes) : Outcome :=
  match run.outcome with
  | none => ⟨.timedOut, run.millis, run.events⟩
  | some (.ok body) => ⟨.octets body, run.millis, run.events⟩
  | some (.error e) =>
    ⟨.ofError (.ofEnvelope e), run.millis, run.events ++ [faultEvent op path e]⟩

/-- Carries out an operation on the body of a request. -/
def operate (app : App κ) (op : Operation) (r : Request) : StateM (World κ) Outcome := do
  if app.bodyLimit op < r.body.length then return ⟨.tooLarge, 0, []⟩
  if !app.encryptionEnabled then return ⟨.octets r.body, 0, []⟩
  match app.pathAndKey r with
  | .error e => return ⟨.ofError e, 0, []⟩
  | .ok (path, key) =>
    let run ← app.retry.run (some requestTimeout) op.name (app.attemptLogged op key path r.body)
    return respond op path (settle run)

/-- What the service says of its health. -/
def health (app : App κ) : HealthBody where
  status := "ok"
  encryptionEnabled := app.encryptionEnabled
  keysConfigured := app.keyMap.handles.length.toUInt64

/-- What is found at a path. -/
inductive Route where
  | operation (op : Operation)
  | health
  | nothing
deriving DecidableEq

/-- The route of a path. -/
def Route.ofPath (path : String) : Route :=
  if path = "/seal" then .operation .sealing
  else if path = "/open" then .operation .opening
  else if path = "/health" then .health
  else .nothing

/-- Handles a request. -/
def handle (app : App κ) (r : Request) : StateM (World κ) Outcome :=
  match Route.ofPath r.path with
  | .operation op =>
    if r.method = "POST" then app.operate op r
    else pure ⟨.methodNotAllowed "POST", 0, []⟩
  | .health =>
    let report := Response.json 200 app.health.toJson
    if r.method = "GET" then pure ⟨report, 0, []⟩
    else if r.method = "HEAD" then pure ⟨{ report with body := [] }, 0, []⟩
    else pure ⟨.methodNotAllowed "GET,HEAD", 0, []⟩
  | .nothing => pure ⟨.notFound, 0, []⟩

end App
end PathSeal.Service
