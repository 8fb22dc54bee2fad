import PathSeal.Kms.Script
import PathSeal.Proofs.Envelope.Codec

/-!
# PathSeal.Proofs.Envelope.Relocation

An envelope that was moved to another path never opens to wrong data. Whatever
key service gives back the data key, opening for another path ends in an
authentication fault, unless the tags of the payload for the two paths collide;
and even then it gives the payload that was sealed
(`openEnvelope_sealPayload_of_path`).

In Galois/counter mode the tag of an envelope cannot be exchanged either: there is
just one that opens it for its own path.
-/

namespace PathSeal.Envelope

open Bytes
open Kms (World)

variable (codec : Codec κ) (key : Key.Handle) (path : String) (plaintext : Bytes)

/-- A sealed envelope holds the payload locked under the drawn data key and its own nonce. -/
theorem box_of_sealPayload {w : World κ} {e : Envelope}
    (h : (codec.sealPayload key path plaintext w).1.value = .ok e) :
    (path ≠ "" ∧ plaintext.length ≤ Cipher.maxLength) ∧
      codec.options.algorithm.lock (Codec.drawnKey w).val e.nonce.val plaintext (ofString path) =
        ⟨e.ciphertext, e.tag⟩ := by
  obtain ⟨hpath, box, wrappedKey, hbox, -, -, rfl⟩ := (Codec.sealPayload_eq_ok_iff ..).mp h
  obtain ⟨⟨hlen, -⟩, hlock⟩ := (Cipher.encrypt_eq_ok_iff ..).mp hbox
  exact ⟨⟨hpath, hlen⟩, hlock⟩

/-- **A relocated envelope never opens to wrong data.** Let a key service give the data key of a
sealed envelope back in time. Opened for any path, the envelope gives the payload if the tag for
that path is the one for its own path, and an authentication fault otherwise: no other payload and
no other fault. In Galois/counter mode, opened for its own path with any other tag, it gives an
authentication fault. -/
theorem openEnvelope_sealPayload_of_path (path' : String) (hpath' : path' ≠ "") (w w' : World κ)
    (e : Envelope) (hseal : (codec.sealPayload key path plaintext w).1.value = .ok e)
    (htime : (codec.wrapper.unwrap key e.wrappedKey w').1.millis ≤ codec.options.kmsTimeout.ticks)
    (hdek : (codec.wrapper.unwrap key e.wrappedKey w').1.value = .ok (Codec.drawnKey w).val) :
    let tagFor (p : String) : Cipher.Tag := (codec.options.algorithm.lock (Codec.drawnKey w).val
      e.nonce.val plaintext (ofString p)).tag
    (codec.openEnvelope key path' e w').1.value =
        (if (ofString path').length ≤ Cipher.maxLength ∧ tagFor path' = tagFor path then
          .ok plaintext
        else .error (.integrity .authentication)) ∧
      (codec.options.algorithm = .aes256Gcm → ∀ tag : Cipher.Tag, tag ≠ e.tag →
        (codec.openEnvelope key path { e with tag } w').1.value =
          .error (.integrity .authentication)) := by
  intro tagFor
  obtain ⟨⟨hpath, hlen⟩, hlock⟩ := box_of_sealPayload codec key path plaintext hseal
  have hcipher : (codec.options.algorithm.lock (Codec.drawnKey w).val e.nonce.val plaintext
      (ofString path)).ciphertext = e.ciphertext := by rw [hlock]
  have htag : (codec.options.algorithm.lock (Codec.drawnKey w).val e.nonce.val plaintext
      (ofString path)).tag = e.tag := by rw [hlock]
  constructor
  · have hdec := Cipher.decrypt_lock_of_aad codec.options.algorithm (Codec.drawnKey w) e.nonce
      plaintext (ofString path) (ofString path') hlen
    rw [hcipher, htag] at hdec
    rw [Codec.openEnvelope_of_unwrap codec key path' w' hpath' e htime hdek, hdec]
    simp only [tagFor, htag]
    split
    · rfl
    · rfl
  · intro hgcm tag hne
    rw [hgcm] at hcipher htag
    have hdec := Cipher.decrypt_gcm_of_tag_ne (Codec.drawnKey w) e.nonce plaintext (ofString path)
      (show tag ≠ _ by rw [htag]; exact hne)
    rw [hcipher] at hdec
    have hopen := Codec.openEnvelope_of_unwrap codec key path w' hpath { e with tag } htime hdek
    rw [hopen, hgcm, hdec]
    rfl

/-- An envelope whose data key a scripted service echoes, moved from one run to another. -/
theorem openEnvelope_sealPayload_of_echo :
    let key : Key.Handle := ⟨.inProcess, "test"⟩
    let codec : Codec Kms.Script := ⟨Kms.Script.wrapper, ⟨.aes256Gcm, .ofSeconds 10⟩⟩
    let w : World Kms.Script := ⟨.cyclic #[], []⟩
    let weights := ofString "weights"
    ∃ e, (codec.sealPayload key "gs://bucket/run" weights w).1.value = .ok e ∧
      let tagFor (p : String) : Cipher.Tag := (codec.options.algorithm.lock (Codec.drawnKey w).val
        e.nonce.val weights (ofString p)).tag
      (codec.openEnvelope key "gs://bucket/other" e w).1.value =
          (if (ofString "gs://bucket/other").length ≤ Cipher.maxLength ∧
              tagFor "gs://bucket/other" = tagFor "gs://bucket/run" then
            .ok weights
          else .error (.integrity .authentication)) ∧
        (codec.options.algorithm = .aes256Gcm → ∀ tag : Cipher.Tag, tag ≠ e.tag →
          (codec.openEnvelope key "gs://bucket/run" { e with tag } w).1.value =
            .error (.integrity .authentication)) := by
  intro key codec w weights
  have hbox := (Cipher.encrypt_eq_ok_iff codec.options.algorithm (Codec.drawnKey w)
    (Codec.drawnNonce w) weights (ofString "gs://bucket/run") _).mpr
    ⟨⟨by decide, by decide⟩, rfl⟩
  have hwrap : (codec.wrapper.wrap key (Codec.drawnKey w).val (Codec.afterDraws w)).1.value =
      .ok ⟨(Codec.drawnKey w).val, by decide, by decide⟩ := by rfl
  have hseal := (Codec.sealPayload_eq_ok_iff codec key "gs://bucket/run" weights w _).mpr
    ⟨by decide, _, _, hbox, by decide, hwrap, rfl⟩
  exact ⟨_, hseal, openEnvelope_sealPayload_of_path codec key "gs://bucket/run" weights
    "gs://bucket/other" (by decide) w w _ hseal (by decide) rfl⟩

end PathSeal.Envelope
