import PathSeal.Proofs.Envelope.Codec
import PathSeal.Proofs.Kms.Reads

/-!
# PathSeal.Proofs.Envelope.Draws

Which random bytes sealing and opening read, over any key service. An attempt to seal
reads a data key and then a nonce, whatever comes of it, and lets the service read on
from there (`reads_sealToBytes`). Opening reads nothing (`reads_openBytes`).

The one call that an attempt makes hands over the data key that the payload is
encrypted under (`sealToBytes_recorded`, `exists_box_of_sealToBytes`).
-/

namespace PathSeal.Envelope

open Bytes
open Kms (World Timed Reads Call)

/-- Payloads and paths of these lengths can be encrypted. -/
def Encryptable (path : String) (plaintext : Bytes) : Prop :=
  plaintext.length ≤ Cipher.maxLength ∧ (ofString path).length ≤ Cipher.maxLength

instance (path : String) (plaintext : Bytes) : Decidable (Encryptable path plaintext) :=
  inferInstanceAs (Decidable (_ ∧ _))

/-- How many random bytes an attempt to seal reads, for a service that reads some on its own.
Without a path it stops before it draws; a payload that cannot be encrypted is not brought to the
service. -/
def sealDrawn (drawn : Key.Handle → Nat) (key : Key.Handle) (path : String) (plaintext : Bytes) :
    Nat :=
  if path = "" then 0
  else Cipher.keyLength + (Cipher.nonceLength + if Encryptable path plaintext then drawn key else 0)

/-- Under a data key and a nonce of the right size the lengths decide whether a payload can be
encrypted. -/
theorem encrypt_eq (algorithm : Cipher.Algorithm) (dek : Key.Data) (nonce : Cipher.Nonce)
    (path : String) (plaintext : Bytes) :
    Cipher.encrypt algorithm dek.val nonce.val plaintext (ofString path) =
      if Encryptable path plaintext then
        .ok (algorithm.lock dek.val nonce.val plaintext (ofString path))
      else .error .primitive :=
  Cipher.encrypt_sized ..

theorem reads_drawSized (n : Nat) :
    Reads n fun w : World κ =>
      ((⟨w.entropy.peek n, Entropy.length_peek ..⟩ : Cipher.Sized n),
        { w with entropy := w.entropy.skip n }) := by
  intro w e hpeek
  simp only [hpeek]

namespace Codec

variable (codec : Codec κ) (key : Key.Handle) (path : String) (plaintext : Bytes)

section

variable {codec} {drawn : Key.Handle → Nat} (h : codec.wrapper.Draws drawn)

include h

/-- Sealing reads a data key, a nonce, and what the service reads. -/
theorem reads_sealPayload :
    Reads (sealDrawn drawn key path plaintext) (codec.sealPayload key path plaintext) := by
  by_cases hpath : path = ""
  · rw [sealDrawn, if_pos hpath, hpath]
    exact .pure _
  · rw [sealDrawn, if_neg hpath]
    simp only [sealPayload, associatedData_of_ne hpath]
    have hkey : Reads Cipher.keyLength (drawKey : StateM (World κ) Key.Data) :=
      reads_drawSized Cipher.keyLength
    have hnonce : Reads Cipher.nonceLength (drawNonce : StateM (World κ) Cipher.Nonce) :=
      reads_drawSized Cipher.nonceLength
    refine hkey.bind fun dek => hnonce.bind fun nonce => ?_
    rw [encrypt_eq]
    by_cases hlengths : Encryptable path plaintext
    · rw [if_pos hlengths, if_pos hlengths]
      exact (h.wrap key dek.val).map
    · rw [if_neg hlengths, if_neg hlengths]
      exact .pure _

/-- The stored form takes no more. -/
theorem reads_sealToBytes :
    Reads (sealDrawn drawn key path plaintext) (codec.sealToBytes key path plaintext) :=
  (reads_sealPayload key path plaintext h).map

/-- Opening reads nothing. -/
theorem reads_openBytes (stored : Bytes) : Reads 0 (codec.openBytes key path stored) := by
  unfold openBytes
  cases ofBytes stored with
  | error fault => exact .pure _
  | ok e =>
    simp only [openEnvelope]
    cases associatedData path with
    | error fault => exact .pure _
    | ok aad => exact (h.unwrap key e.wrappedKey).map

end

/-! ## The data key of an attempt -/

/-- The codec with a record of the calls to its service. -/
def recorded : Codec (κ × List Call) :=
  ⟨codec.wrapper.recorded, codec.options⟩

/-- The call that an attempt to seal makes, if it has a path and the payload can be encrypted: to
wrap the data key that it has drawn. -/
def sealingCalls (key : Key.Handle) (path : String) (plaintext : Bytes) (w : World κ) :
    List Call :=
  if path ≠ "" ∧ Encryptable path plaintext then [.wrap key (drawnKey w).val] else []

/-- A record changes nothing but itself. It says which call an attempt makes. -/
theorem sealPayload_recorded (w : World κ) (calls : List Call) :
    codec.recorded.sealPayload key path plaintext ⟨w.entropy, (w.kms, calls)⟩ =
      let result := codec.sealPayload key path plaintext w
      (result.1,
        ⟨result.2.entropy, (result.2.kms, calls ++ sealingCalls key path plaintext w)⟩) := by
  dsimp only
  rw [sealingCalls]
  by_cases hpath : path = ""
  · rw [if_neg (not_and_of_not_left _ (not_not_intro hpath)), List.append_nil, hpath]
    rfl
  · -- Both draw the same, so both encrypt the same.
    generalize hnoting : (⟨w.entropy, (w.kms, calls)⟩ : World (κ × List Call)) = noting
    have hentropy : noting.entropy = w.entropy := by rw [← hnoting]
    have hkey : drawnKey noting = drawnKey w := drawnKey_congr hentropy
    have hnonce : drawnNonce noting = drawnNonce w := drawnNonce_congr hentropy
    have hsame : Cipher.encrypt codec.recorded.options.algorithm (drawnKey noting).val
        (drawnNonce noting).val plaintext (ofString path) =
          Cipher.encrypt codec.options.algorithm (drawnKey w).val (drawnNonce w).val plaintext
            (ofString path) := by
      rw [hkey, hnonce]
      rfl
    have hencrypt := encrypt_eq codec.options.algorithm (drawnKey w) (drawnNonce w) path plaintext
    by_cases hlengths : Encryptable path plaintext
    · rw [if_pos hlengths] at hencrypt
      rw [if_pos ⟨hpath, hlengths⟩,
        sealPayload_of_encrypt codec key path plaintext w hpath hencrypt,
        sealPayload_of_encrypt codec.recorded key path plaintext noting hpath
          (hsame.trans hencrypt), hkey, hnonce, ← hnoting]
      rfl
    · rw [if_neg hlengths] at hencrypt
      rw [if_neg (not_and_of_not_right _ hlengths), List.append_nil,
        sealPayload_of_encrypt_error codec key path plaintext w hpath hencrypt,
        sealPayload_of_encrypt_error codec.recorded key path plaintext noting hpath
          (hsame.trans hencrypt), ← hnoting]
      rfl

/-- Storing the envelope makes no further call. -/
theorem sealToBytes_recorded (w : World κ) (calls : List Call) :
    codec.recorded.sealToBytes key path plaintext ⟨w.entropy, (w.kms, calls)⟩ =
      let result := codec.sealToBytes key path plaintext w
      (result.1,
        ⟨result.2.entropy, (result.2.kms, calls ++ sealingCalls key path plaintext w)⟩) := by
  rw [sealToBytes_eq, sealPayload_recorded]
  rfl

/-- Nor does the log of it. -/
theorem sealLogged_recorded (w : World κ) (calls : List Call) :
    codec.recorded.sealLogged key path plaintext ⟨w.entropy, (w.kms, calls)⟩ =
      let result := codec.sealLogged key path plaintext w
      (result.1,
        ⟨result.2.entropy, (result.2.kms, calls ++ sealingCalls key path plaintext w)⟩) := by
  rw [sealLogged_eq, sealPayload_recorded]
  rfl

/-- The call that an attempt to open makes, if it has a path and the bytes are an envelope. -/
def openingCalls (key : Key.Handle) (path : String) (stored : Bytes) : List Call :=
  if path = "" then []
  else match ofBytes stored with
    | .ok e => [.unwrap key e.wrappedKey.bytes]
    | .error _ => []

/-- Of an attempt to open, too, a record changes nothing but itself. -/
theorem openBytes_recorded (stored : Bytes) (w : World κ) (calls : List Call) :
    codec.recorded.openBytes key path stored ⟨w.entropy, (w.kms, calls)⟩ =
      let result := codec.openBytes key path stored w
      (result.1, ⟨result.2.entropy, (result.2.kms, calls ++ openingCalls key path stored)⟩) := by
  dsimp only
  rw [openingCalls]
  cases hbytes : ofBytes stored with
  | error fault =>
    rw [openBytes_of_error codec key path w hbytes, openBytes_of_error _ key path _ hbytes]
    simp
  | ok e =>
    rw [openBytes_of_ok codec key path w hbytes, openBytes_of_ok _ key path _ hbytes]
    by_cases hpath : path = ""
    · rw [if_pos hpath, hpath, List.append_nil]
      rfl
    · rw [if_neg hpath, openEnvelope_of_ne codec key path w hpath,
        openEnvelope_of_ne _ key path _ hpath]
      rfl

/-- The log of it makes no further call. -/
theorem openLogged_recorded (stored : Bytes) (w : World κ) (calls : List Call) :
    codec.recorded.openLogged key path stored ⟨w.entropy, (w.kms, calls)⟩ =
      let result := codec.openLogged key path stored w
      (result.1, ⟨result.2.entropy, (result.2.kms, calls ++ openingCalls key path stored)⟩) := by
  have hopen := codec.openBytes_recorded key path stored w calls
  cases hbytes : ofBytes stored with
  | error fault =>
    rw [openBytes_of_error codec key path w hbytes, openBytes_of_error _ key path _ hbytes] at hopen
    have hstate := congrArg Prod.snd hopen
    rw [openLogged_of_error codec key path w hbytes, openLogged_of_error _ key path _ hbytes]
    exact Prod.ext rfl hstate
  | ok e =>
    rw [openLogged_of_ok codec key path w hbytes, openLogged_of_ok _ key path _ hbytes, hopen]

/-- What an attempt to seal gives is encrypted under the data key and the nonce that it has drawn.
-/
theorem exists_box_of_sealToBytes {w : World κ} {stored : Bytes}
    (h : (codec.sealToBytes key path plaintext w).1.value = .ok stored) :
    ∃ box wrappedKey,
      Cipher.encrypt codec.options.algorithm (drawnKey w).val (drawnNonce w).val plaintext
        (ofString path) = .ok box ∧
      stored = encode (assemble (drawnNonce w) box wrappedKey) := by
  obtain ⟨e, hseal, rfl⟩ := (sealToBytes_eq_ok_iff ..).mp h
  obtain ⟨-, box, wrappedKey, hbox, -, -, rfl⟩ := (sealPayload_eq_ok_iff ..).mp hseal
  exact ⟨box, wrappedKey, hbox, rfl⟩

end Codec
end PathSeal.Envelope
