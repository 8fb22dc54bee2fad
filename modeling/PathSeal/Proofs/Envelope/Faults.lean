import PathSeal.Proofs.Envelope.Draws

/-!
# PathSeal.Proofs.Envelope.Faults

How sealing and opening fail, over any key service: each fault with what led to it.
An attempt to seal fails for its path, for its lengths, or in its one call
(`sealToBytes_eq_error_iff`). An attempt to open fails for its layout, for its path,
in its one call, or for what it does with the answer (`openBytes_eq_error_iff`).

A call fails by its time limit or by the service's own fault
(`bounded_value_eq_error_iff`); and what the service gave back can only be no key, or
one under which the payload does not verify (`decryptWith_eq_error_iff`).
-/

namespace PathSeal.Envelope

open Bytes
open Kms (World Timed)

/-! ## The parts -/

/-- What a fault of the key service is for the object: a fault of the same kind, with the same
detail. -/
inductive Conveys : Kms.Error → Error → Prop where
  | unavailable (detail : String) : Conveys (.unavailable detail) (.kmsUnavailable detail)
  | accessDenied (detail : String) : Conveys (.accessDenied detail) (.kmsAccessDenied detail)
  | keyNotFound (detail : String) : Conveys (.keyNotFound detail) (.kmsKeyNotFound detail)
  | integrity (detail : String) : Conveys (.integrity detail) (.integrity (.wrappedKey detail))

/-- There is just one such fault for each of the key service. -/
theorem conveys_iff (fault : Kms.Error) (e : Error) : Conveys fault e ↔ .ofKms fault = e := by
  constructor
  · intro h
    cases h <;> rfl
  · rintro rfl
    cases fault with
    | unavailable detail => exact .unavailable detail
    | accessDenied detail => exact .accessDenied detail
    | keyNotFound detail => exact .keyNotFound detail
    | integrity detail => exact .integrity detail

/-- A bounded call fails if its limit comes first, or with the fault of the service. -/
theorem bounded_value_eq_error_iff (op : String) (limit : Duration)
    (reply : Timed (Except Kms.Error α)) (fault : Error) :
    (bounded op limit reply).value = .error fault ↔
      (limit.ticks < reply.millis ∧
        fault = .kmsUnavailable s!"KMS {op} timed out after {limit.text}") ∨
      (reply.millis ≤ limit.ticks ∧ ∃ e, reply.value = .error e ∧ fault = .ofKms e) := by
  by_cases h : reply.millis ≤ limit.ticks
  · rw [bounded_of_le op h]
    cases hvalue : reply.value with
    | ok found => simp [Except.mapError, Nat.not_lt_of_le h]
    | error e => simp [Except.mapError, h, Nat.not_lt_of_le h, eq_comm]
  · have hlt := Nat.lt_of_not_le h
    rw [bounded_of_lt op hlt]
    simp [h, hlt, eq_comm]

/-- A bounded call does not find a key only if the service does not. -/
theorem keyNotFound_of_bounded {op : String} {limit : Duration}
    {reply : Timed (Except Kms.Error α)} {detail : String}
    (h : (bounded op limit reply).value = .error (.kmsKeyNotFound detail)) :
    reply.value = .error (.keyNotFound detail) := by
  rcases (bounded_value_eq_error_iff ..).mp h with ⟨-, hfault⟩ | ⟨-, e, hreply, hfault⟩
  · contradiction
  · cases e with
    | keyNotFound found => rw [hreply, Error.kmsKeyNotFound.inj hfault]
    | _ => contradiction

/-- What a service gave back fails for being no key, or by the tag of the payload. -/
theorem decryptWith_eq_error_iff (algorithm : Cipher.Algorithm) (e : Envelope)
    (aad material : Bytes) (fault : Error) :
    decryptWith algorithm e aad material = .error fault ↔
      (material.length ≠ Cipher.keyLength ∧
        fault = .integrity (.wrappedKey (s!"unwrapped key has invalid length: " ++
          s!"expected {Cipher.keyLength} bytes, got {material.length}"))) ∨
      ∃ dek : Key.Data, dek.val = material ∧
        Cipher.decrypt algorithm dek.val e.nonce.val e.ciphertext e.tag.val aad =
          .error .authentication ∧
        fault = .integrity .authentication := by
  by_cases hlen : material.length = Cipher.keyLength
  · have hval := decryptWith_val algorithm e aad ⟨material, hlen⟩
    dsimp only at hval
    rw [hval]
    constructor
    · intro h
      cases hdec : Cipher.decrypt algorithm material e.nonce.val e.ciphertext e.tag.val aad with
      | ok found =>
        rw [hdec] at h
        contradiction
      | error found =>
        -- With all lengths right only the tag is left to fail.
        have hfound := Cipher.fault_of_decrypt algorithm _ _ _ hdec
        rw [if_neg (not_not_intro hlen), if_neg (not_not_intro e.nonce.property),
          if_neg (not_not_intro e.tag.property)] at hfound
        subst hfound
        rw [hdec] at h
        exact .inr ⟨⟨material, hlen⟩, rfl, hdec, (Except.error.inj h).symm⟩
    · rintro (⟨hne, -⟩ | ⟨dek, rfl, hdec, rfl⟩)
      · exact absurd hlen hne
      · rw [hdec]
        rfl
  · simp only [decryptWith, Key.Data.ofUnwrapped, dif_neg hlen]
    constructor
    · intro h
      exact .inl ⟨hlen, (Except.error.inj h).symm⟩
    · rintro (⟨-, rfl⟩ | ⟨dek, rfl, -⟩)
      · rfl
      · exact absurd dek.property hlen

/-- Bytes that are no envelope are malformed. -/
theorem exists_malformed_of_ofBytes {bs : Bytes} {fault : Error} (h : ofBytes bs = .error fault) :
    ∃ reason, fault = .malformed reason := by
  rw [ofBytes] at h
  cases hdecode : decode bs with
  | ok e =>
    rw [hdecode] at h
    contradiction
  | error e =>
    rw [hdecode] at h
    exact ⟨e.message, (Except.error.inj h).symm⟩

namespace Codec

variable (codec : Codec κ) (key : Key.Handle) (path : String) (plaintext : Bytes) (w : World κ)
  (fault : Error)

/-! ## Sealing -/

/-- What the call of an attempt to seal comes to. -/
def wrapAnswer : Timed (Except Error Key.Wrapped) :=
  bounded "wrap" codec.options.kmsTimeout
    (codec.wrapper.wrap key (drawnKey w).val (afterDraws w)).1

/-- Within the limits of the cipher a sealing with a path comes to what its call comes to. -/
theorem sealPayload_of_encryptable (hpath : path ≠ "") (h : Encryptable path plaintext) :
    codec.sealPayload key path plaintext w =
      ({ codec.wrapAnswer key w with
        value := (codec.wrapAnswer key w).value.map (assemble (drawnNonce w)
          (codec.options.algorithm.lock (drawnKey w).val (drawnNonce w).val plaintext
            (ofString path))) },
        (codec.wrapper.wrap key (drawnKey w).val (afterDraws w)).2) := by
  have hbox := encrypt_eq codec.options.algorithm (drawnKey w) (drawnNonce w) path plaintext
  rw [if_pos h] at hbox
  rw [sealPayload_of_encrypt codec key path plaintext w hpath hbox]
  rfl

/-- So it is with the stored form. -/
theorem sealToBytes_of_encryptable (hpath : path ≠ "") (h : Encryptable path plaintext) :
    (codec.sealToBytes key path plaintext w).1 =
      { codec.wrapAnswer key w with
        value := (codec.wrapAnswer key w).value.map fun wrappedKey =>
          encode (assemble (drawnNonce w) (codec.options.algorithm.lock (drawnKey w).val
            (drawnNonce w).val plaintext (ofString path)) wrappedKey) } := by
  rw [sealToBytes_eq, sealPayload_of_encryptable codec key path plaintext w hpath h]
  dsimp only
  cases (codec.wrapAnswer key w).value with
  | ok wrappedKey => rfl
  | error e => rfl

/-- Beyond them it fails before its call. -/
theorem sealToBytes_of_not_encryptable (hpath : path ≠ "") (h : ¬Encryptable path plaintext) :
    codec.sealToBytes key path plaintext w =
      (.now (.error (.ofCipher .primitive)), afterDraws w) := by
  have hbox := encrypt_eq codec.options.algorithm (drawnKey w) (drawnNonce w) path plaintext
  rw [if_neg h] at hbox
  rw [sealToBytes_eq, sealPayload_of_encrypt_error codec key path plaintext w hpath hbox]
  rfl

/-- A sealing fails for its path, for its lengths, or in its call. -/
theorem sealToBytes_eq_error_iff :
    (codec.sealToBytes key path plaintext w).1.value = .error fault ↔
      (path = "" ∧ fault = .invalidIdentity "object path must not be empty") ∨
      (path ≠ "" ∧ ¬Encryptable path plaintext ∧ fault = .ofCipher .primitive) ∨
      (path ≠ "" ∧ Encryptable path plaintext ∧
        (codec.wrapAnswer key w).value = .error fault) := by
  by_cases hpath : path = ""
  · subst hpath
    rw [sealToBytes_eq, sealPayload_empty]
    simp [Timed.now, Except.map, eq_comm]
  · by_cases hlengths : Encryptable path plaintext
    · rw [sealToBytes_of_encryptable codec key path plaintext w hpath hlengths]
      cases (codec.wrapAnswer key w).value with
      | ok wrappedKey => simp [Except.map, hpath, hlengths]
      | error e => simp [Except.map, hpath, hlengths]
    · rw [sealToBytes_of_not_encryptable codec key path plaintext w hpath hlengths]
      simp [Timed.now, hpath, hlengths, eq_comm]

/-! ## Opening -/

/-- What the call of an attempt to open comes to. -/
def unwrapAnswer (e : Envelope) : Timed (Except Error Bytes) :=
  bounded "unwrap" codec.options.kmsTimeout (codec.wrapper.unwrap key e.wrappedKey w).1

/-- With a path, an opening comes to what is made of what its call comes to. -/
theorem openBytes_of_layout {stored : Bytes} {e : Envelope} (hpath : path ≠ "")
    (h : ofBytes stored = .ok e) :
    (codec.openBytes key path stored w).1 =
      { codec.unwrapAnswer key w e with
        value := (codec.unwrapAnswer key w e).value.bind
          (decryptWith codec.options.algorithm e (ofString path)) } := by
  rw [openBytes_of_ok codec key path w h, openEnvelope_of_ne codec key path w hpath]
  rfl

/-- An opening fails for its layout, for its path, in its call, or for what the call gave. -/
theorem openBytes_eq_error_iff (stored : Bytes) :
    (codec.openBytes key path stored w).1.value = .error fault ↔
      ofBytes stored = .error fault ∨
      ∃ e, ofBytes stored = .ok e ∧
        ((path = "" ∧ fault = .invalidIdentity "object path must not be empty") ∨
        (path ≠ "" ∧ (codec.unwrapAnswer key w e).value = .error fault) ∨
        (path ≠ "" ∧ ∃ material, (codec.unwrapAnswer key w e).value = .ok material ∧
          decryptWith codec.options.algorithm e (ofString path) material = .error fault)) := by
  cases hbytes : ofBytes stored with
  | error found =>
    rw [openBytes_of_error codec key path w hbytes]
    simp [Timed.now]
  | ok e =>
    by_cases hpath : path = ""
    · subst hpath
      rw [openBytes_of_ok codec key "" w hbytes, openEnvelope_empty]
      simp [Timed.now, eq_comm]
    · rw [openBytes_of_layout codec key path w hpath hbytes]
      cases hanswer : (codec.unwrapAnswer key w e).value with
      | ok material => simp [Except.bind, hpath, hanswer]
      | error found => simp [Except.bind, hpath, hanswer]

/-! ## Keys that are not found -/

/-- Sealing finds its key if the service does. -/
theorem sealToBytes_ne_keyNotFound {detail : String}
    (h : ∀ dek w, (codec.wrapper.wrap key dek w).1.value ≠ .error (.keyNotFound detail)) :
    (codec.sealToBytes key path plaintext w).1.value ≠ .error (.kmsKeyNotFound detail) := by
  rw [Ne, sealToBytes_eq_error_iff]
  rintro (⟨-, hfault⟩ | ⟨-, -, hfault⟩ | ⟨-, -, hanswer⟩)
  · contradiction
  · contradiction
  · exact h _ _ (keyNotFound_of_bounded hanswer)

/-- Opening finds its key if the service does. -/
theorem openBytes_ne_keyNotFound (stored : Bytes) {detail : String}
    (h : ∀ wrapped w, (codec.wrapper.unwrap key wrapped w).1.value ≠ .error (.keyNotFound detail)) :
    (codec.openBytes key path stored w).1.value ≠ .error (.kmsKeyNotFound detail) := by
  rw [Ne, openBytes_eq_error_iff]
  rintro (hbytes | ⟨e, -, ⟨-, hfault⟩ | ⟨-, hanswer⟩ | ⟨-, material, -, hdec⟩⟩)
  · obtain ⟨reason, hreason⟩ := exists_malformed_of_ofBytes hbytes
    contradiction
  · contradiction
  · exact h _ _ (keyNotFound_of_bounded hanswer)
  · rcases (decryptWith_eq_error_iff ..).mp hdec with ⟨-, hfault⟩ | ⟨dek, -, -, hfault⟩
    · contradiction
    · contradiction

end Codec
end PathSeal.Envelope
