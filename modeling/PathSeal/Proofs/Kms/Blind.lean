import PathSeal.Proofs.Kms.Backends
import PathSeal.Proofs.Kms.Local
import PathSeal.Proofs.Kms.Script

/-!
# PathSeal.Proofs.Kms.Blind

What the caller of a key service can see of a wrapping: how long the wrapped key is or
which fault there is, how long it takes, and in which state the service is left. A
service is blind if none of these depends on the data key or on the random bytes
(`Wrapper.Blind`).

Master keys in the process are blind, and so is a script of replies: it may give back
the very bytes that it is given, but they are always as long as a data key. A service
behind a wire need not be, since the far end may make of a data key what it likes.
-/

namespace PathSeal.Kms

open Bytes

/-- What can be seen of a wrapping. -/
def Wrapper.seen (wrapper : Wrapper κ) (key : Key.Handle) (dek : Bytes) (w : World κ) :
    Timed (Except Error Nat) × κ :=
  let result := wrapper.wrap key dek w
  (⟨result.1.value.map (·.length), result.1.millis⟩, result.2.kms)

/-- What can be seen of a wrapping depends on the handle and on the state of the service only. -/
def Wrapper.Blind (wrapper : Wrapper κ) : Prop :=
  ∀ (key : Key.Handle) (dek dek' : Key.Data) (w w' : World κ), w.kms = w'.kms →
    wrapper.seen key dek.val w = wrapper.seen key dek'.val w'

/-- A data key is wrapped to 60 bytes, or not at all if the handle is beyond the limit of the
cipher. -/
theorem Local.map_length_wrapWith (master : MasterKey) (handle : Key.Handle) (nonce : Cipher.Nonce)
    (dek : Key.Data) :
    (wrapWith master handle nonce.val dek.val).map (·.length) =
      if (ofString handle.uri).length ≤ Cipher.maxLength then .ok 60
      else .error (.unavailable s!"local wrap failed: {Cipher.CipherError.primitive.message}") := by
  by_cases huri : (ofString handle.uri).length ≤ Cipher.maxLength
  · obtain ⟨wrapped, hwrapped⟩ := exists_wrapWith master handle nonce dek huri
    have hdek : dek.val.length = Cipher.keyLength := dek.property
    rw [if_pos huri, hwrapped, Except.map, length_of_wrapWith master handle hwrapped, hdek]
    rfl
  · rw [if_neg huri, wrapWith, Cipher.encrypt_sized, if_neg (not_and_of_not_right _ huri)]
    rfl

/-- Master keys in the process are blind. -/
theorem Local.blind (kms : Local) : (kms.wrapper : Wrapper κ).Blind := by
  intro key dek dek' w w' hkms
  cases h : kms.find? key with
  | none =>
    rw [Wrapper.seen, Wrapper.seen, wrap_of_not_found key kms w h, wrap_of_not_found key kms w' h,
      hkms]
  | some master =>
    have hlength (dek : Key.Data) (w : World κ) := map_length_wrapWith master key
      ⟨w.entropy.peek Cipher.nonceLength, Entropy.length_peek ..⟩ dek
    dsimp only at hlength
    rw [Wrapper.seen, Wrapper.seen, wrap_of_find? key kms w h, wrap_of_find? key kms w' h]
    simp only [Timed.now, hlength, hkms]

theorem Script.wrap_eq (key : Key.Handle) (dek : Bytes) (w : World Script) :
    wrapper.wrap key dek w =
      (⟨(next w.kms).1.outcome.wrapped dek, (next w.kms).1.wait⟩,
        { w with kms := (next w.kms).2 }) :=
  rfl

/-- A scripted reply wraps all data keys to the same length, or none. -/
theorem Script.map_length_wrapped (outcome : Outcome) (dek dek' : Key.Data) :
    (outcome.wrapped dek.val).map (·.length) = (outcome.wrapped dek'.val).map (·.length) := by
  cases outcome with
  | fail error => rfl
  | give bytes => rfl
  | echo =>
    have hecho (dek : Key.Data) :
        (Outcome.echo.wrapped dek.val).map (·.length) = .ok Cipher.keyLength := by
      have hdek : dek.val.length = Cipher.keyLength := dek.property
      obtain ⟨wrapped, hwrapped⟩ := (Key.Wrapped.exists_ofBytes_iff dek.val).mpr
        (by rw [hdek]; decide)
      have hbytes := (Key.Wrapped.ofBytes_eq_ok_iff dek.val wrapped).mp hwrapped
      have hvalue : Outcome.echo.wrapped dek.val = .ok wrapped := by
        simp only [Outcome.wrapped, Outcome.bytes, bind, Except.bind, hwrapped]
        rfl
      rw [hvalue, Except.map, Key.Wrapped.length, hbytes, hdek]
    rw [hecho, hecho]

/-- A script is blind. -/
theorem Script.blind : wrapper.Blind := by
  intro key dek dek' w w' hkms
  rw [Wrapper.seen, Wrapper.seen, wrap_eq, wrap_eq, hkms]
  dsimp only
  rw [map_length_wrapped _ dek dek']

/-- So are the services of a deployment with master keys in the process only. -/
theorem Backends.blind (b : Backends σ τ) (hgoogle : b.google = none) (hamazon : b.amazon = none) :
    b.wrapper.Blind := by
  intro key dek dek' w w' hkms
  cases h : b.find? key.scheme with
  | none =>
    rw [Wrapper.seen, Wrapper.seen, wrap_of_missing h, wrap_of_missing h, hkms]
  | some service =>
    obtain ⟨kms, rfl⟩ : ∃ kms : Local, service = kms.wrapper := by
      cases hscheme : key.scheme with
      | gcp =>
        rw [hscheme, find?, hgoogle] at h
        contradiction
      | aws =>
        rw [hscheme, find?, hamazon] at h
        contradiction
      | inProcess =>
        rw [hscheme, find?, Option.map_eq_some_iff] at h
        obtain ⟨kms, -, rfl⟩ := h
        exact ⟨kms, rfl⟩
    rw [Wrapper.seen, Wrapper.seen, wrap_of_find? h, wrap_of_find? h]
    exact kms.blind key dek dek' w w' hkms

end PathSeal.Kms
