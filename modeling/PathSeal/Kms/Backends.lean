import PathSeal.Kms.Amazon
import PathSeal.Kms.Google
import PathSeal.Kms.Local

/-!
# PathSeal.Kms.Backends

The key services of a deployment, at most one of each kind. The scheme of a
handle says which of them a call goes to.
-/

namespace PathSeal.Kms

/-- The key services that are configured. -/
structure Backends (σ τ : Type) where
  google : Option (Google.Service σ) := none
  amazon : Option (Amazon.Service τ) := none
  inProcess : Option Local := none

/-- The state of the services behind the wire. -/
abbrev Remote (σ τ : Type) := Google.Session σ × τ

namespace Backends

/-- Whether the service of a scheme is configured. -/
def supports (b : Backends σ τ) : Key.Scheme → Bool
  | .gcp => b.google.isSome
  | .aws => b.amazon.isSome
  | .inProcess => b.inProcess.isSome

/-- Runs a computation on the second part of the state. -/
def onSecond (run : StateM (World σ) α) : StateM (World (κ × σ)) α :=
  fun w =>
    let (a, w') := run ⟨w.entropy, w.kms.2⟩
    (a, ⟨w'.entropy, (w.kms.1, w'.kms)⟩)

/-- The service of a scheme, if it is configured. -/
def find? (b : Backends σ τ) : Key.Scheme → Option (Wrapper (Remote σ τ))
  | .gcp => b.google.map fun s =>
    { wrap := fun key dek => onFirst (s.wrapper.wrap key dek)
      unwrap := fun key wrapped => onFirst (s.wrapper.unwrap key wrapped) }
  | .aws => b.amazon.map fun s =>
    { wrap := fun key dek => onSecond (s.wrapper.wrap key dek)
      unwrap := fun key wrapped => onSecond (s.wrapper.unwrap key wrapped) }
  | .inProcess => b.inProcess.map (·.wrapper)

/-- The fault of a handle whose service is not configured. -/
def missing (key : Key.Handle) : Error :=
  .keyNotFound s!"no {key.scheme.name} backend configured for {key}"

/-- All services as one. -/
def wrapper (b : Backends σ τ) : Wrapper (Remote σ τ) where
  wrap key dek :=
    match b.find? key.scheme with
    | some service => service.wrap key dek
    | none => pure (.now (.error (missing key)))
  unwrap key wrapped :=
    match b.find? key.scheme with
    | some service => service.unwrap key wrapped
    | none => pure (.now (.error (missing key)))

/-- A dump of something that may be absent. -/
def dumpOption : Option String → String
  | some s => s!"Some({s})"
  | none => "None"

/-- The dump of the configured services. Of what lies behind the wire nothing is shown. -/
def dump (b : Backends σ τ) : String :=
  let google := dumpOption (b.google.map (·.dump))
  let amazon := dumpOption (b.amazon.map fun _ => "AwsKmsWrapper")
  let inProcess := dumpOption (b.inProcess.map (·.dump))
  s!"KmsClients \x7b gcp: {google}, aws: {amazon}, local: {inProcess} \x7d"

end Backends
end PathSeal.Kms
