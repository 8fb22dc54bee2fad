import PathSeal.Proofs.Envelope.Faults
import PathSeal.Proofs.Kms.Blind

/-!
# PathSeal.Proofs.Envelope.Blind

What can be seen of an attempt to seal: how long the stored form is and what is logged of
it, or which fault there is, how long the attempt takes, and in which state it leaves the
key service. Over a service that is blind this depends on the length of the plaintext
only, and neither on its bytes nor on the random ones (`sealingSeen_congr`).
-/

namespace PathSeal.Envelope

open Bytes
open Kms (World Timed)

/-- The time limit of a call does not look at the value. -/
theorem bounded_map (op : String) (limit : Duration) (reply : Timed (Except Kms.Error α))
    (f : α → β) :
    bounded op limit ⟨reply.value.map f, reply.millis⟩ =
      ⟨(bounded op limit reply).value.map f, (bounded op limit reply).millis⟩ := by
  rw [bounded, bounded]
  split
  · cases reply.value with
    | ok found => rfl
    | error e => rfl
  · rfl

/-- What can be seen of something that is made: how long it is, and the event that tells of it. -/
def Made.seen (made : Made) : Nat × Log.Event :=
  (made.bytes.length, made.event)

/-- What is stored of a payload is longer than it by the wrapped key and what is always there. -/
theorem length_encode_assemble (algorithm : Cipher.Algorithm) (dek : Key.Data)
    (nonce : Cipher.Nonce) (plaintext aad : Bytes) (wrappedKey : Key.Wrapped) :
    (encode (assemble nonce (algorithm.lock dek.val nonce.val plaintext aad) wrappedKey)).length =
      wrappedKey.length + 32 + plaintext.length := by
  have hprefix : lengthPrefix = 4 := rfl
  have hnonce : Cipher.nonceLength = 12 := rfl
  have htag : Cipher.tagLength = 16 := rfl
  rw [length_encode, encodedLength]
  simp only [assemble, Cipher.Algorithm.length_ciphertext_lock]
  omega

namespace Codec

variable (codec : Codec κ) (key : Key.Handle) (path : String)

/-- Of an object that is sealed two lengths are seen, its path and its key. -/
theorem exists_seen_of_sealLogged {plaintext : Bytes} {w : World κ} {made : Made}
    (h : (codec.sealLogged key path plaintext w).1.value = .ok made) :
    ∃ wrappedLength, made.seen =
      (wrappedLength + 32 + plaintext.length,
        sealedEvent key path plaintext.length wrappedLength) := by
  obtain ⟨e, hseal, hbytes, hevent⟩ := (sealLogged_eq_ok_iff ..).mp h
  obtain ⟨-, box, wrappedKey, hbox, -, -, rfl⟩ := (sealPayload_eq_ok_iff ..).mp hseal
  obtain ⟨-, rfl⟩ := (Cipher.encrypt_eq_ok_iff ..).mp hbox
  refine ⟨wrappedKey.length, ?_⟩
  rw [Made.seen, hbytes, hevent, length_encode_assemble]
  rfl

/-- What can be seen of an attempt to seal. -/
def sealingSeen (plaintext : Bytes) (w : World κ) : Timed (Except Error (Nat × Log.Event)) × κ :=
  let result := codec.sealLogged key path plaintext w
  (⟨result.1.value.map Made.seen, result.1.millis⟩, result.2.kms)

theorem sealingSeen_empty (plaintext : Bytes) (w : World κ) :
    codec.sealingSeen key "" plaintext w =
      (.now (.error (.invalidIdentity "object path must not be empty")), w.kms) := rfl

section

variable {path} {plaintext : Bytes} (hpath : path ≠ "")

include hpath

theorem sealingSeen_of_not_encryptable (h : ¬Encryptable path plaintext) (w : World κ) :
    codec.sealingSeen key path plaintext w =
      (.now (.error (.ofCipher .primitive)), w.kms) := by
  have hbox := encrypt_eq codec.options.algorithm (drawnKey w) (drawnNonce w) path plaintext
  rw [if_neg h] at hbox
  rw [sealingSeen, sealLogged_eq,
    sealPayload_of_encrypt_error codec key path plaintext w hpath hbox]
  rfl

/-- What is seen of a sealing within the limits of the cipher is what is seen of its call, with the
length of all the rest added. -/
theorem sealingSeen_of_encryptable (h : Encryptable path plaintext) (w : World κ) :
    codec.sealingSeen key path plaintext w =
      let seen := codec.wrapper.seen key (drawnKey w).val (afterDraws w)
      let answer := bounded "wrap" codec.options.kmsTimeout seen.1
      let made (wrappedLength : Nat) : Nat × Log.Event :=
        (wrappedLength + 32 + plaintext.length,
          sealedEvent key path plaintext.length wrappedLength)
      (⟨answer.value.map made, answer.millis⟩, seen.2) := by
  rw [sealingSeen, sealLogged_eq, sealPayload_of_encryptable codec key path plaintext w hpath h,
    Kms.Wrapper.seen]
  dsimp only
  rw [bounded_map]
  dsimp only
  rw [← wrapAnswer]
  cases (codec.wrapAnswer key w).value with
  | error e => rfl
  | ok wrappedKey =>
    simp only [Except.map, Made.seen, length_encode_assemble]
    rfl

end

/-- Over a blind service what is seen of a sealing depends on the length of the plaintext only. -/
theorem sealingSeen_congr (hblind : codec.wrapper.Blind) {plaintext plaintext' : Bytes}
    (hlength : plaintext.length = plaintext'.length) {w w' : World κ} (hkms : w.kms = w'.kms) :
    codec.sealingSeen key path plaintext w = codec.sealingSeen key path plaintext' w' := by
  by_cases hpath : path = ""
  · rw [hpath, sealingSeen_empty, sealingSeen_empty, hkms]
  · have hsame : Encryptable path plaintext ↔ Encryptable path plaintext' := by
      rw [Encryptable, Encryptable, hlength]
    by_cases h : Encryptable path plaintext
    · have hseen := hblind key (drawnKey w) (drawnKey w') (afterDraws w) (afterDraws w') hkms
      rw [sealingSeen_of_encryptable codec key hpath h,
        sealingSeen_of_encryptable codec key hpath (hsame.mp h), hseen, hlength]
    · rw [sealingSeen_of_not_encryptable codec key hpath h,
        sealingSeen_of_not_encryptable codec key hpath (mt hsame.mpr h), hkms]

end Codec
end PathSeal.Envelope
