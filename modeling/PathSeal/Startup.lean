import PathSeal.Config.Settings
import PathSeal.Kms.Backends
import PathSeal.Service.App

/-!
# PathSeal.Startup

From settings to a running service: the key services that the mapping needs are
set up, and every master key seals and opens a probe before the first request.
-/

namespace PathSeal.Startup

open Kms (World Backends Remote)

/-! ## Verifying master keys -/

/-- The object path of the probe. -/
def probePath : String := "gs://sealer-startup-check/probe"

/-- The payload of the probe. -/
def probePayload : Bytes := Bytes.ofString "sealer startup key check"

/-- Why a master key cannot be used. -/
inductive KeyFault where
  | sealing (key : Key.Handle) (cause : Envelope.Error)
  | opening (key : Key.Handle) (cause : Envelope.Error)
  | different (key : Key.Handle)
deriving DecidableEq

/-- The texts of a fault and of what lies beneath it, outermost first. -/
def KeyFault.chain : KeyFault → List String
  | sealing key cause => s!"master key {key} failed to seal the startup probe" :: cause.chain
  | opening key cause => s!"master key {key} failed to open the startup probe" :: cause.chain
  | different key => [s!"master key {key} returned a different startup probe payload"]

/-- How the verification of master keys went. -/
structure Verification where
  events : List Log.Event
  fault : Option KeyFault
deriving DecidableEq

/-- The event of a master key that can be used. -/
def verifiedEvent (key : Key.Handle) : Log.Event where
  level := .info
  target := "sealer::startup"
  message := "master key verified"
  fields := [("key", .text key.uri)]

/-- Seals and opens the probe under a master key. -/
def verifyKey (codec : Envelope.Codec κ) (key : Key.Handle) : StateM (World κ) Verification := do
  let answer ← codec.sealLogged key probePath probePayload
  match answer.value with
  | .error e => return ⟨[], some (.sealing key e)⟩
  | .ok sealed =>
    let answer ← codec.openLogged key probePath sealed.bytes
    match answer.value with
    | .error e => return ⟨[sealed.event], some (.opening key e)⟩
    | .ok opened =>
      if opened.bytes = probePayload then
        return ⟨[sealed.event, opened.event, verifiedEvent key], none⟩
      else return ⟨[sealed.event, opened.event], some (.different key)⟩

/-- Verifies master keys in their order, up to the first that cannot be used. -/
def verifyKeys (codec : Envelope.Codec κ) : List Key.Handle → StateM (World κ) Verification
  | [] => pure ⟨[], none⟩
  | key :: keys => do
    let first ← verifyKey codec key
    match first.fault with
    | some _ => return first
    | none =>
      let rest ← verifyKeys codec keys
      return { rest with events := first.events ++ rest.events }

/-! ## Setting up the key services -/

/-- An event of the set-up. -/
def setupEvent (level : Log.Level) (message : String) (fields : List (String × Log.Value)) :
    Log.Event where
  level
  target := "sealer"
  message
  fields

/-- Whether some key belongs to a scheme. -/
def uses (keys : List Key.Handle) (scheme : Key.Scheme) : Bool :=
  keys.any (·.scheme == scheme)

/-- Where access tokens for Cloud KMS come from. -/
def credentials (c : Config) : Kms.Google.Credentials :=
  match c.accessToken with
  | some token => .fixed (Text.trim token)
  | none => .metadataServer

/-- The master keys in the process, derived from the seed. -/
def derivedKeys (seed : Bytes) (keys : List Key.Handle) : Kms.Local :=
  (keys.filter Config.isInProcess).foldl
    (fun kms key => kms.register key (Kms.Local.derivedKey seed key)) .empty

/-- The key services for some keys, and the events of setting them up. Only those services are set
up that a key belongs to. -/
def backends (c : Config) (keys : List Key.Handle) (google : Kms.Google.Peer σ)
    (amazon : Kms.Amazon.Peer τ) : Except Config.Error (Backends σ τ) × List Log.Event :=
  let googleEvents := if uses keys .gcp then
    [setupEvent .info "Cloud KMS backend configured" [("endpoint", .text c.cloudEndpoint)]] else []
  let amazonEvents := if uses keys .aws then
    [setupEvent .info "AWS KMS backend configured" []] else []
  let remote : Backends σ τ :=
    { google := if uses keys .gcp then
        some (.ofEndpoint c.cloudEndpoint (credentials c) google) else none
      amazon := if uses keys .aws then some ⟨amazon⟩ else none }
  if uses keys .inProcess then
    match c.seed with
    | .error e => (.error (.seed e), googleEvents ++ amazonEvents)
    | .ok seed =>
      (.ok { remote with inProcess := some (derivedKeys seed keys) },
        googleEvents ++ amazonEvents ++
          [setupEvent .warn "local KMS backend configured: master keys are derived in-process" []])
  else (.ok remote, googleEvents ++ amazonEvents)

/-! ## Starting -/

/-- Why the service does not start. -/
inductive Fault where
  | config (e : Config.Error)
  | key (e : KeyFault)
deriving DecidableEq

/-- The texts of a fault and of what lies beneath it, outermost first. -/
def Fault.chain : Fault → List String
  | config e => e.chain
  | key e => e.chain

/-- What comes of starting: the service with its key services, or a fault, and the events. -/
structure Report (σ τ : Type) where
  outcome : Except Fault (Service.App (Remote σ τ) × Backends σ τ)
  events : List Log.Event

/-- The service of some settings. -/
def app (c : Config) (keyMap : KeyMap) (backends : Backends σ τ) :
    Service.App (Remote σ τ) where
  codec := ⟨backends.wrapper, c.codecOptions⟩
  keyMap
  pathHeader := c.objectPathHeader
  retry := c.retryPolicy
  maxObjectBytes := c.maxObjectBytes
  encryptionEnabled := !c.encryptionDisabled

/-- Whether master keys are verified. Without encryption no key is needed. -/
def needsVerification (c : Config) : Bool :=
  !c.encryptionDisabled && c.verifyKeysOnStartup

/-- Starts the service. -/
def start (c : Config) (google : Kms.Google.Peer σ) (amazon : Kms.Amazon.Peer τ) :
    StateM (World (Remote σ τ)) (Report σ τ) := do
  match c.keyMap with
  | .error e => return ⟨.error (.config e), []⟩
  | .ok keyMap =>
    match backends c keyMap.handles google amazon with
    | (.error e, events) => return ⟨.error (.config e), events⟩
    | (.ok services, events) =>
      let app := app c keyMap services
      if needsVerification c then
        let verification ← verifyKeys app.codec keyMap.handles
        let events := events ++ verification.events
        match verification.fault with
        | some e => return ⟨.error (.key e), events⟩
        | none => return ⟨.ok (app, services), events⟩
      else return ⟨.ok (app, services), events⟩

end PathSeal.Startup
