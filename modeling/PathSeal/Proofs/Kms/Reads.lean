import PathSeal.Kms.Backends
import PathSeal.Kms.Script
import PathSeal.Proofs.Entropy

/-!
# PathSeal.Proofs.Kms.Reads

How many random bytes a computation reads. To read `n` bytes is to move the stream on
by `n` and to depend on nothing of it but these (`Reads`). Computations one after
another read neighbouring pieces (`Reads.bind`), so what a longer one reads is known
from its parts.

Of the services only the one inside the process reads anything: a nonce for each
wrapping under a registered handle. The others leave randomness to the far end.
-/

namespace PathSeal.Kms

/-! ## Reading from the stream -/

/-- A computation reads the next `n` random bytes: it moves the stream on by them, and from
another stream that goes on with the same ones it gives the same. -/
def Reads (n : Nat) (run : StateM (World κ) α) : Prop :=
  ∀ (w : World κ) (e : Entropy), e.peek n = w.entropy.peek n →
    run ⟨e, w.kms⟩ = ((run w).1, ⟨e.skip n, (run w).2.kms⟩)

namespace Reads

variable {run : StateM (World κ) α}

theorem entropy_eq (h : Reads n run) (w : World κ) : (run w).2.entropy = w.entropy.skip n :=
  congrArg (fun result => result.2.entropy) (h w w.entropy rfl)

/-- What ignores the stream reads nothing. -/
theorem of_kms {run : StateM (World κ) α} (f : κ → α × κ)
    (h : ∀ w, run w = ((f w.kms).1, { w with kms := (f w.kms).2 })) : Reads 0 run := by
  intro w e _
  rw [h, h]
  rfl

theorem pure (a : α) : Reads 0 (Pure.pure a : StateM (World κ) α) :=
  of_kms (fun kms => (a, kms)) fun _ => rfl

theorem draw (n : Nat) : Reads n (Kms.draw n : StateM (World κ) Bytes) := by
  intro w e h
  rw [Kms.draw, Kms.draw, h]

/-- What is done next reads on from there. -/
theorem bind {next : α → StateM (World κ) β} (h : Reads m run) (hnext : ∀ a, Reads n (next a)) :
    Reads (m + n) (run >>= next) := by
  intro w e hpeek
  rw [Entropy.peek_add w.entropy, Entropy.peek_add_eq_append_iff e (Entropy.length_peek ..)]
    at hpeek
  obtain ⟨hfirst, hrest⟩ := hpeek
  have hrun := h w e hfirst
  have hthen := hnext (run w).1 (run w).2 (e.skip m) (by rw [hrest, h.entropy_eq w])
  change next (run ⟨e, w.kms⟩).1 (run ⟨e, w.kms⟩).2 = _
  rw [hrun, hthen, Entropy.skip_skip]
  rfl

theorem map {f : α → β} (h : Reads n run) : Reads n (do return f (← run)) :=
  h.bind fun a => pure (f a)

theorem onFirst (h : Reads n run) : Reads n (Kms.onFirst run : StateM (World (κ × σ)) α) := by
  intro w e hpeek
  have hrun := h ⟨w.entropy, w.kms.1⟩ e hpeek
  simp only [Kms.onFirst, hrun]
  rfl

end Reads

/-! ## Services -/

/-- How many random bytes a service reads: some for a wrapping under a handle, none to unwrap. -/
structure Wrapper.Draws (wrapper : Wrapper κ) (drawn : Key.Handle → Nat) : Prop where
  wrap : ∀ key dek, Reads (drawn key) (wrapper.wrap key dek)
  unwrap : ∀ key wrapped, Reads 0 (wrapper.unwrap key wrapped)

/-- How many random bytes a wrapping inside the process reads: a nonce, if the handle is
registered. -/
def Local.drawn (kms : Local) (key : Key.Handle) : Nat :=
  if kms.contains key then Cipher.nonceLength else 0

/-- A service inside the process reads a nonce for each wrapping under a registered handle. -/
theorem Local.draws (kms : Local) : (kms.wrapper : Wrapper κ).Draws kms.drawn := by
  constructor
  · intro key dek
    cases hfind : kms.find? key with
    | none =>
      simp only [wrapper, drawn, contains, hfind]
      exact .pure _
    | some master =>
      simp only [wrapper, drawn, contains, hfind]
      exact (Reads.draw _).map
  · intro key wrapped
    cases hfind : kms.find? key with
    | none =>
      simp only [wrapper, hfind]
      exact .pure _
    | some master =>
      simp only [wrapper, hfind]
      exact .pure _

/-- A scripted service reads nothing. -/
theorem Script.draws : wrapper.Draws fun _ => 0 := by
  have htake : Reads 0 takeReply := .of_kms next fun _ => rfl
  constructor
  · intro key dek
    exact htake.map
  · intro key wrapped
    exact htake.map

/-- Google's service reads nothing, whatever the far end does. -/
theorem Google.Service.draws (s : Google.Service σ) : s.wrapper.Draws fun _ => 0 := by
  have hcall {α : Type} (run : StateM (Google.Session σ) α) : Reads 0 (onSession run) :=
    .of_kms run fun _ => rfl
  constructor
  · intro key dek
    exact (hcall _).map
  · intro key wrapped
    exact (hcall _).map

/-- Amazon's service reads nothing, whatever the far end does. -/
theorem Amazon.Service.draws (s : Amazon.Service τ) : s.wrapper.Draws fun _ => 0 := by
  have hcall (op : Amazon.Operation) (key : Key.Handle) (bytes : Bytes) :
      Reads 0 (s.call op key bytes) :=
    .of_kms (fun kms =>
      (bytesOfReply op key (s.peer (request op key bytes) kms).1,
        (s.peer (request op key bytes) kms).2)) fun _ => rfl
  constructor
  · intro key dek
    exact (hcall .encrypt key dek).map
  · intro key wrapped
    exact (hcall .decrypt key wrapped.bytes).map

namespace Backends

/-- How many random bytes a wrapping by the service of a scheme reads: only the one inside the
process reads any. -/
def drawnBy (b : Backends σ τ) (scheme : Key.Scheme) (key : Key.Handle) : Nat :=
  match scheme, b.inProcess with
  | .inProcess, some kms => kms.drawn key
  | _, _ => 0

/-- How many random bytes a wrapping reads. -/
def drawn (b : Backends σ τ) (key : Key.Handle) : Nat :=
  b.drawnBy key.scheme key

theorem reads_onSecond {run : StateM (World τ) α} (h : Reads n run) :
    Reads n (onSecond run : StateM (World (κ × τ)) α) := by
  intro w e hpeek
  have hrun := h ⟨w.entropy, w.kms.2⟩ e hpeek
  simp only [onSecond, hrun]
  rfl

variable {b : Backends σ τ} {scheme : Key.Scheme}

/-- What the service of a scheme reads. -/
theorem draws_of_find? {service : Wrapper (Remote σ τ)} (h : b.find? scheme = some service) :
    service.Draws (b.drawnBy scheme) := by
  cases scheme with
  | gcp =>
    obtain ⟨s, -, rfl⟩ := Option.map_eq_some_iff.mp h
    exact ⟨fun key dek => (s.draws.wrap key dek).onFirst,
      fun key wrapped => (s.draws.unwrap key wrapped).onFirst⟩
  | aws =>
    obtain ⟨s, -, rfl⟩ := Option.map_eq_some_iff.mp h
    exact ⟨fun key dek => reads_onSecond (s.draws.wrap key dek),
      fun key wrapped => reads_onSecond (s.draws.unwrap key wrapped)⟩
  | inProcess =>
    obtain ⟨kms, hkms, rfl⟩ := Option.map_eq_some_iff.mp h
    have hdrawn : b.drawnBy .inProcess = kms.drawn := by
      funext key
      simp only [drawnBy, hkms]
    rw [hdrawn]
    exact kms.draws

/-- Nothing is read for a scheme whose service is missing. -/
theorem drawnBy_of_missing (h : b.find? scheme = none) (key : Key.Handle) :
    b.drawnBy scheme key = 0 := by
  cases scheme with
  | gcp => rfl
  | aws => rfl
  | inProcess =>
    have hnone : b.inProcess = none := Option.map_eq_none_iff.mp h
    simp only [drawnBy, hnone]

/-- All services together read what the one inside the process reads. -/
theorem draws (b : Backends σ τ) : b.wrapper.Draws b.drawn := by
  constructor
  · intro key dek
    cases h : b.find? key.scheme with
    | none =>
      simp only [wrapper, h, drawn, drawnBy_of_missing h]
      exact .pure _
    | some service =>
      simp only [wrapper, h]
      exact (draws_of_find? h).wrap key dek
  · intro key wrapped
    cases h : b.find? key.scheme with
    | none =>
      simp only [wrapper, h]
      exact .pure _
    | some service =>
      simp only [wrapper, h]
      exact (draws_of_find? h).unwrap key wrapped

end Backends
end PathSeal.Kms
