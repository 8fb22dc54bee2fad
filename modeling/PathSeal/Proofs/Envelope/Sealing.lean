import PathSeal.Kms.Script
import PathSeal.Proofs.Envelope.Faults

/-!
# PathSeal.Proofs.Envelope.Sealing

Sealing is all or nothing, over any key service. An empty path is refused before
anything is drawn. Otherwise a data key and a nonce are drawn, there is one call, which
hands over that data key, and what the service replies decides by the rules of
`Sealing` (`sealingOf_eq_iff`), of which exactly one applies.

The last rule does not say how an envelope is made but what it is good for: it holds
the wrapped key and the nonce, and its payload decrypts to the plaintext under the data
key. No two envelopes do (`eq_assemble_iff_decrypts`).
-/

namespace PathSeal.Envelope

open Bytes
open Kms (World Timed Call)

/-- What sealing a plaintext for a path comes to, once the key service has replied to the call for
the data key. -/
inductive Sealing (options : Options) (path : String) (plaintext dek nonce : Bytes)
    (reply : Timed (Except Kms.Error Key.Wrapped)) : Except Error Envelope → Prop where
  /-- The reply comes after the time limit. -/
  | late (htime : options.kmsTimeout.ticks < reply.millis) :
    Sealing options path plaintext dek nonce reply
      (.error (.kmsUnavailable s!"KMS wrap timed out after {options.kmsTimeout.text}"))
  /-- The service fails. -/
  | failed (fault : Kms.Error) (conveyed : Error) (htime : reply.millis ≤ options.kmsTimeout.ticks)
      (hreply : reply.value = .error fault) (hconveys : Conveys fault conveyed) :
    Sealing options path plaintext dek nonce reply (.error conveyed)
  /-- The service wraps the data key, under which the payload decrypts to the plaintext. -/
  | sealed (e : Envelope) (htime : reply.millis ≤ options.kmsTimeout.ticks)
      (hreply : reply.value = .ok e.wrappedKey) (hnonce : e.nonce.val = nonce)
      (hdecrypts : Cipher.decrypt options.algorithm dek nonce e.ciphertext e.tag.val
        (ofString path) = .ok plaintext) :
    Sealing options path plaintext dek nonce reply (.ok e)

/-! ## Payloads -/

section

variable (algorithm : Cipher.Algorithm) {path : String} {plaintext : Bytes} (dek : Key.Data)
  (nonce : Cipher.Nonce)

/-- Within the limits of the cipher just one ciphertext with its tag decrypts to a plaintext. -/
theorem lock_eq_iff_decrypts (h : Encryptable path plaintext) (box : Cipher.Box) :
    algorithm.lock dek.val nonce.val plaintext (ofString path) = box ↔
      Cipher.decrypt algorithm dek.val nonce.val box.ciphertext box.tag.val (ofString path) =
        .ok plaintext := by
  have hlen : plaintext.length ≤ Cipher.maxLength := h.1
  have hlimits : plaintext.length ≤ Cipher.maxLength ∧
    (ofString path).length ≤ Cipher.maxLength := h
  rw [Cipher.decrypt_eq_ok_iff_encrypt algorithm dek nonce _ _ plaintext box.tag hlen,
    Cipher.encrypt_eq_ok_iff]
  simp [hlimits]

/-- An envelope is assembled from the encrypted plaintext exactly if it holds the wrapped key and
the nonce, and its payload decrypts to the plaintext. -/
theorem eq_assemble_iff_decrypts (h : Encryptable path plaintext) (wrappedKey : Key.Wrapped)
    (e : Envelope) :
    assemble nonce (algorithm.lock dek.val nonce.val plaintext (ofString path)) wrappedKey = e ↔
      wrappedKey = e.wrappedKey ∧ e.nonce.val = nonce.val ∧
        Cipher.decrypt algorithm dek.val nonce.val e.ciphertext e.tag.val (ofString path) =
          .ok plaintext := by
  have hbox := lock_eq_iff_decrypts algorithm dek nonce h ⟨e.ciphertext, e.tag⟩
  rw [← hbox, ← Subtype.ext_iff]
  generalize algorithm.lock dek.val nonce.val plaintext (ofString path) = box
  cases e
  cases box
  simp [assemble, eq_comm]

end

/-! ## The decision -/

namespace Codec

variable (codec : Codec κ) (key : Key.Handle) (path : String) (plaintext : Bytes) (w : World κ)

/-- The calls that an attempt to seal makes. -/
def callsToSeal : List Call :=
  (codec.recorded.sealPayload key path plaintext ⟨w.entropy, (w.kms, [])⟩).2.kms.2

theorem callsToSeal_eq :
    codec.callsToSeal key path plaintext w = sealingCalls key path plaintext w := by
  rw [callsToSeal, sealPayload_recorded]
  simp

/-- What an attempt makes of the reply to its call. -/
def sealingOf : Except Error Envelope :=
  (codec.wrapAnswer key w).value.map (assemble (drawnNonce w)
    (codec.options.algorithm.lock (drawnKey w).val (drawnNonce w).val plaintext (ofString path)))

variable {path} {plaintext} (h : Encryptable path plaintext)

include h

/-- What is made of a reply is just what a rule says. -/
theorem sealingOf_eq_iff (result : Except Error Envelope) :
    codec.sealingOf key path plaintext w = result ↔
      Sealing codec.options path plaintext (drawnKey w).val (drawnNonce w).val
        (codec.wrapper.wrap key (drawnKey w).val (afterDraws w)).1 result := by
  rw [sealingOf, wrapAnswer]
  generalize (codec.wrapper.wrap key (drawnKey w).val (afterDraws w)).1 = reply
  by_cases htime : reply.millis ≤ codec.options.kmsTimeout.ticks
  · have hnot := Nat.not_lt_of_le htime
    rw [bounded_of_le "wrap" htime]
    cases hreply : reply.value with
    | error fault =>
      constructor
      · rintro rfl
        exact .failed fault _ htime hreply ((conveys_iff fault _).mpr rfl)
      · intro hruled
        cases hruled with
        | late hlate => exact absurd hlate hnot
        | failed found conveyed _ hfound hconveys =>
          have hsame : fault = found := Except.error.inj (hreply.symm.trans hfound)
          rw [hsame, ← (conveys_iff ..).mp hconveys]
          rfl
        | sealed e _ hfound =>
          rw [hreply] at hfound
          contradiction
    | ok wrappedKey =>
      have hassembled := eq_assemble_iff_decrypts codec.options.algorithm (drawnKey w)
        (drawnNonce w) h wrappedKey
      constructor
      · rintro rfl
        obtain ⟨hkey, hnonce, hdecrypts⟩ := (hassembled _).mp rfl
        exact .sealed _ htime (hreply.trans (congrArg _ hkey)) hnonce hdecrypts
      · intro hruled
        cases hruled with
        | late hlate => exact absurd hlate hnot
        | failed found conveyed _ hfound =>
          rw [hreply] at hfound
          contradiction
        | sealed e _ hfound hnonce hdecrypts =>
          have hkey : wrappedKey = e.wrappedKey := Except.ok.inj (hreply.symm.trans hfound)
          exact congrArg _ ((hassembled e).mpr ⟨hkey, hnonce, hdecrypts⟩)
  · have hlate := Nat.lt_of_not_le htime
    rw [bounded_of_lt "wrap" hlate]
    constructor
    · rintro rfl
      exact .late hlate
    · intro hruled
      cases hruled with
      | late => rfl
      | failed _ _ hearly => exact absurd hearly htime
      | sealed _ hearly => exact absurd hearly htime

end Codec

/-! ## Rulings -/

section

variable {options : Options} {path : String} {plaintext dek nonce : Bytes}
  {reply : Timed (Except Kms.Error Key.Wrapped)}

theorem Sealing.length_ciphertext {e : Envelope}
    (h : Sealing options path plaintext dek nonce reply (.ok e)) :
    e.ciphertext.length = plaintext.length := by
  cases h with
  | sealed _ _ _ _ hdecrypts => exact Cipher.length_of_decrypt_eq_ok _ _ _ _ _ hdecrypts

/-- A sealing that fails blames the service, and neither the envelope nor the cipher. -/
theorem Sealing.kind_of_error {fault : Error}
    (h : Sealing options path plaintext dek nonce reply (.error fault)) :
    fault.kind ∈ [ErrorKind.kmsUnavailable, .kmsAccessDenied, .kmsKeyNotFound, .kmsIntegrity] := by
  cases h with
  | late => simp [Error.kind]
  | failed _ _ _ _ hconveys => cases hconveys <;> simp [Error.kind]

end

/-- **Sealing is all or nothing, and what it seals is sound.** An empty path is no identity; nothing
is drawn for it and no call is made. Otherwise the next 32 random bytes are the data key and the
next 12 the nonce, and there is one call, to wrap just this data key under the given handle. A
sealing comes to a result if and only if a rule gives that result for the reply: the fault of the
service or of its time limit, or the one envelope with the wrapped key and the nonce that decrypts
to the plaintext. Its stored form is read back as the same envelope, and of a fault nothing is
stored. No sealing finds an envelope malformed, a payload unauthentic or the cipher to blame. -/
theorem sealPayload_decides (codec : Codec κ) (key : Key.Handle) (path : String)
    (plaintext : Bytes) (h : Encryptable path plaintext) (w : World κ) :
    let sealed := codec.sealPayload key path plaintext w
    let stored := codec.sealToBytes key path plaintext w
    let calls := codec.callsToSeal key path plaintext w
    (path = "" →
      sealed = (.now (.error (.invalidIdentity "object path must not be empty")), w) ∧
        calls = []) ∧
    (path ≠ "" →
      let dek := w.entropy.peek 32
      let nonce := (w.entropy.skip 32).peek 12
      let reply := codec.wrapper.wrap key dek { w with entropy := w.entropy.skip 44 }
      calls = [.wrap key dek] ∧ sealed.2 = reply.2 ∧
      ∀ result, sealed.1.value = result ↔
        Sealing codec.options path plaintext dek nonce reply.1 result) ∧
    (∀ e, sealed.1.value = .ok e →
      e.ciphertext.length = plaintext.length ∧
        ∃ bs, stored.1.value = .ok bs ∧ ofBytes bs = .ok e) ∧
    ∀ fault, sealed.1.value = .error fault →
      stored.1.value = .error fault ∧
        fault.kind ∉ [ErrorKind.malformedEnvelope, .authenticationFailure, .internal] := by
  intro sealed stored calls
  have hcalls : calls = Codec.sealingCalls key path plaintext w :=
    codec.callsToSeal_eq key path plaintext w
  have hstored : stored.1.value = sealed.1.value.map encode := rfl
  have hruled : path ≠ "" → ∀ result, sealed.1.value = result ↔
      Sealing codec.options path plaintext (Codec.drawnKey w).val (Codec.drawnNonce w).val
        (codec.wrapper.wrap key (Codec.drawnKey w).val (Codec.afterDraws w)).1 result := by
    intro hpath result
    rw [← codec.sealingOf_eq_iff key w h]
    dsimp only [sealed]
    rw [codec.sealPayload_of_encryptable key path plaintext w hpath h]
    rfl
  have hempty : path = "" →
      sealed = (.now (.error (.invalidIdentity "object path must not be empty")), w) := by
    intro hpath
    dsimp only [sealed]
    rw [hpath, Codec.sealPayload_empty]
  refine ⟨?_, ?_, ?_, ?_⟩
  · intro hpath
    rw [Codec.sealingCalls, if_neg (not_and_of_not_left _ (not_not_intro hpath))] at hcalls
    exact ⟨hempty hpath, hcalls⟩
  · intro hpath
    rw [Codec.sealingCalls, if_pos ⟨hpath, h⟩] at hcalls
    refine ⟨hcalls, ?_, hruled hpath⟩
    dsimp only [sealed]
    rw [codec.sealPayload_of_encryptable key path plaintext w hpath h]
    rfl
  · intro e he
    by_cases hpath : path = ""
    · rw [hempty hpath] at he
      contradiction
    · have hlength := ((hruled hpath _).mp he).length_ciphertext
      refine ⟨hlength, encode e, ?_, (ofBytes_eq_ok_iff (encode e) e).mpr rfl⟩
      rw [hstored, he]
      rfl
  · intro fault hfault
    have hkind : fault.kind ∈ [ErrorKind.invalidObjectIdentity, .kmsUnavailable,
        .kmsAccessDenied, .kmsKeyNotFound, .kmsIntegrity] := by
      by_cases hpath : path = ""
      · rw [hempty hpath] at hfault
        rw [← Except.error.inj hfault]
        simp [Error.kind]
      · exact List.mem_cons_of_mem _ ((hruled hpath _).mp hfault).kind_of_error
    refine ⟨?_, ?_⟩
    · rw [hstored, hfault]
      rfl
    · revert hkind
      cases fault.kind <;> simp

/-- A sealing whose data key a scripted service wraps at the very end of the time limit. The one
call is for the data key, and under it the payload decrypts to the plaintext. -/
theorem sealPayload_decides_at_limit :
    let key : Key.Handle := ⟨.inProcess, "test"⟩
    let codec : Codec Kms.Script := ⟨Kms.Script.wrapper, ⟨.aes256GcmSiv, .ofSeconds 10⟩⟩
    let weights := ofString "weights"
    let path := "gs://bucket/run"
    let w : World Kms.Script := ⟨.cyclic #[], [⟨10000, .give [1, 2, 3]⟩]⟩
    let dek := w.entropy.peek 32
    Encryptable path weights ∧
      codec.callsToSeal key path weights w = [.wrap key dek] ∧
      ∃ e, (codec.sealPayload key path weights w).1.value = .ok e ∧
        e.wrappedKey.bytes = [1, 2, 3] ∧
        Cipher.decrypt .aes256GcmSiv dek ((w.entropy.skip 32).peek 12) e.ciphertext e.tag.val
          (ofString path) = .ok weights := by
  intro key codec weights path w dek
  have h : Encryptable path weights := by decide
  have hreply : (codec.wrapper.wrap key dek { w with entropy := w.entropy.skip 44 }).1 =
      ⟨.ok ⟨[1, 2, 3], by decide, by decide⟩, 10000⟩ := rfl
  obtain ⟨-, hdecides, -⟩ := sealPayload_decides codec key path weights h w
  obtain ⟨hcalls, -, hresult⟩ := hdecides (by decide)
  have hruled := (hresult _).mp rfl
  rw [hreply] at hruled
  refine ⟨h, hcalls, ?_⟩
  generalize (codec.sealPayload key path weights w).1.value = value at hruled
  cases hruled with
  | late htime => exact absurd htime (by decide)
  | failed fault _ _ hfailed => contradiction
  | sealed e _ hwrapped _ hdecrypts =>
    have hkey := congrArg Key.Wrapped.bytes (Except.ok.inj hwrapped)
    exact ⟨e, rfl, hkey.symm, hdecrypts⟩

end PathSeal.Envelope
