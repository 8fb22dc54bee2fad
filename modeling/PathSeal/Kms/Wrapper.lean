import PathSeal.Entropy
import PathSeal.Key.Handle
import PathSeal.Key.Wrapped
import PathSeal.Kms.Error

/-!
# PathSeal.Kms.Wrapper

The seam between sealing and key management: anything that can wrap and unwrap
data keys under a named master key.

A call takes its effect on the surroundings at once and then takes some time to
answer. So a caller that stops waiting has still used the service, and time is a
value that can be reasoned about.
-/

namespace PathSeal.Kms

/-- What a call can change: the random bytes left and the state of the service. -/
structure World (κ : Type) where
  entropy : Entropy
  kms : κ

/-- A value that is there after a number of milliseconds. -/
structure Timed (α : Type) where
  value : α
  millis : Nat

/-- A value that needs no waiting. -/
def Timed.now (value : α) : Timed α := ⟨value, 0⟩

/-- Draws the next `n` random bytes. -/
def draw (n : Nat) : StateM (World κ) Bytes :=
  fun w => (w.entropy.peek n, { w with entropy := w.entropy.skip n })

/-- A service that wraps and unwraps data keys, with a state of type `κ`. -/
structure Wrapper (κ : Type) where
  /-- Encrypts a data key under the named master key. -/
  wrap : Key.Handle → Bytes → StateM (World κ) (Timed (Except Error Key.Wrapped))
  /-- Decrypts a wrapped key under the named master key. -/
  unwrap : Key.Handle → Key.Wrapped → StateM (World κ) (Timed (Except Error Bytes))

/-- Takes a service's answer for a wrapped key. An unusable one counts as a service that did not
work, not as tampering. -/
def wrappedOfResponse (bs : Bytes) : Except Error Key.Wrapped :=
  match Key.Wrapped.ofBytes bs with
  | .ok wrapped => .ok wrapped
  | .error e => .error (.unavailable s!"unusable wrap response: {e.message}")

/-! ## Recorded calls -/

/-- One call to a service and the bytes it was given. -/
inductive Call where
  | wrap (key : Key.Handle) (bytes : Bytes)
  | unwrap (key : Key.Handle) (bytes : Bytes)
deriving DecidableEq

/-- Runs a computation on the first part of the state. -/
def onFirst (run : StateM (World κ) α) : StateM (World (κ × σ)) α :=
  fun w =>
    let (a, w') := run ⟨w.entropy, w.kms.1⟩
    (a, ⟨w'.entropy, (w'.kms, w.kms.2)⟩)

/-- Notes a call at the end of the record. -/
def note (call : Call) : StateM (World (κ × List Call)) Unit :=
  modify fun w => { w with kms := (w.kms.1, w.kms.2 ++ [call]) }

/-- The same service, with a record of the calls made to it. -/
def Wrapper.recorded (wrapper : Wrapper κ) : Wrapper (κ × List Call) where
  wrap key dek := do
    note (.wrap key dek)
    onFirst (wrapper.wrap key dek)
  unwrap key wrapped := do
    note (.unwrap key wrapped.bytes)
    onFirst (wrapper.unwrap key wrapped)

end PathSeal.Kms
