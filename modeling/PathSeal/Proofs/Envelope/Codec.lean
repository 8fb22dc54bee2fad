import PathSeal.Envelope.Codec
import PathSeal.Proofs.Cipher.Aead
import PathSeal.Proofs.Entropy
import PathSeal.Proofs.Envelope.Layout

/-!
# PathSeal.Proofs.Envelope.Codec

What sealing and opening do, over any key service: when they succeed, and with
what. Later modules cite these statements and never open the definitions again.

A sealing with a path draws a data key and a nonce and then makes one call
(`sealPayload_of_encrypt`). It succeeds exactly if the payload can be encrypted
and the call gives a wrapped key in time (`sealPayload_eq_ok_iff`). An opening
succeeds exactly if its one call gives a data key in time and the payload decrypts
under it (`openEnvelope_eq_ok_iff`).
-/

namespace PathSeal.Envelope

open Bytes
open Kms (World Timed)

/-! ## The parts -/

/-- The associated data of a path that is not empty is its UTF-8 form. -/
theorem associatedData_of_ne {path : String} (h : path ≠ "") :
    associatedData path = .ok (ofString path) := by
  simp [associatedData, String.isEmpty_iff, h]

/-- A reply within the limit is passed on. -/
theorem bounded_of_le (op : String) {limit : Duration} {reply : Timed (Except Kms.Error α)}
    (h : reply.millis ≤ limit.ticks) :
    bounded op limit reply = ⟨reply.value.mapError .ofKms, reply.millis⟩ := by
  rw [bounded, if_pos h]

/-- A reply beyond the limit is not waited for. -/
theorem bounded_of_lt (op : String) {limit : Duration} {reply : Timed (Except Kms.Error α)}
    (h : limit.ticks < reply.millis) :
    bounded op limit reply =
      ⟨.error (.kmsUnavailable s!"KMS {op} timed out after {limit.text}"), limit.ticks⟩ := by
  rw [bounded, if_neg (Nat.not_le_of_gt h)]

/-- A bounded call gives a value exactly if the service gives it in time. -/
theorem bounded_value_eq_ok_iff (op : String) (limit : Duration)
    (reply : Timed (Except Kms.Error α)) (a : α) :
    (bounded op limit reply).value = .ok a ↔ reply.millis ≤ limit.ticks ∧ reply.value = .ok a := by
  by_cases h : reply.millis ≤ limit.ticks
  · rw [bounded_of_le op h]
    cases hvalue : reply.value with
    | ok found => simp [Except.mapError, h]
    | error e => simp [Except.mapError]
  · rw [bounded_of_lt op (Nat.lt_of_not_le h)]
    simp [h]

/-- A bounded call takes as long as the service, up to the limit. -/
theorem millis_bounded (op : String) (limit : Duration)
    (reply : Timed (Except Kms.Error α)) :
    (bounded op limit reply).millis = min reply.millis limit.ticks := by
  by_cases h : reply.millis ≤ limit.ticks
  · rw [bounded_of_le op h, Nat.min_eq_left h]
  · rw [bounded_of_lt op (Nat.lt_of_not_le h), Nat.min_eq_right (Nat.le_of_not_le h)]

theorem Error.isRetryable_ofCipher (fault : Cipher.CipherError) :
    (Error.ofCipher fault).isRetryable = false := by
  cases fault <;> rfl

/-- Bytes that are no envelope stay so on another attempt. -/
theorem isRetryable_of_ofBytes {bs : Bytes} {fault : Error} (h : ofBytes bs = .error fault) :
    fault.isRetryable = false := by
  rw [ofBytes] at h
  cases hdecode : decode bs with
  | ok e =>
    rw [hdecode] at h
    contradiction
  | error e =>
    rw [hdecode] at h
    rw [← Except.error.inj h]
    rfl

theorem ofUnwrapped_val (dek : Key.Data) : Key.Data.ofUnwrapped dek.val = .ok dek := by
  rw [Key.Data.ofUnwrapped, dif_pos dek.property]

/-- The payload that comes of a data key is what decrypts under it. -/
theorem decryptWith_val (algorithm : Cipher.Algorithm) (e : Envelope) (aad : Bytes)
    (dek : Key.Data) :
    decryptWith algorithm e aad dek.val =
      (Cipher.decrypt algorithm dek.val e.nonce.val e.ciphertext e.tag.val aad).mapError
        .ofCipher := by
  simp only [decryptWith, ofUnwrapped_val]
  rfl

/-- A payload comes only of material that is a data key under which it decrypts. -/
theorem decryptWith_eq_ok_iff (algorithm : Cipher.Algorithm) (e : Envelope)
    (aad material plaintext : Bytes) :
    decryptWith algorithm e aad material = .ok plaintext ↔
      ∃ dek : Key.Data, dek.val = material ∧
        Cipher.decrypt algorithm dek.val e.nonce.val e.ciphertext e.tag.val aad =
          .ok plaintext := by
  by_cases hlen : material.length = Cipher.keyLength
  · have hval := decryptWith_val algorithm e aad ⟨material, hlen⟩
    dsimp only at hval
    rw [hval]
    cases hdec : Cipher.decrypt algorithm material e.nonce.val e.ciphertext e.tag.val aad with
    | ok found =>
      constructor
      · intro h
        have hfound : found = plaintext := Except.ok.inj h
        rw [← hfound]
        exact ⟨⟨material, hlen⟩, rfl, hdec⟩
      · rintro ⟨dek, rfl, h⟩
        rw [← hdec, h]
        rfl
    | error fault =>
      constructor
      · intro h
        contradiction
      · rintro ⟨dek, rfl, h⟩
        rw [hdec] at h
        contradiction
  · constructor
    · intro h
      simp only [decryptWith, Key.Data.ofUnwrapped, dif_neg hlen] at h
      contradiction
    · rintro ⟨dek, rfl, -⟩
      exact absurd dek.property hlen

namespace Codec

variable (codec : Codec κ) (key : Key.Handle) (path : String) (plaintext : Bytes) (w : World κ)

/-! ## Sealing -/

/-- The data key that the next sealing draws. -/
def drawnKey (w : World κ) : Key.Data := (drawKey w).1

/-- The nonce that the next sealing draws, after its data key. -/
def drawnNonce (w : World κ) : Cipher.Nonce := (drawNonce (drawKey w).2).1

theorem drawnKey_congr {w : World κ} {w' : World σ} (h : w.entropy = w'.entropy) :
    drawnKey w = drawnKey w' := by
  simp only [drawnKey, drawKey, h]

theorem drawnNonce_congr {w : World κ} {w' : World σ} (h : w.entropy = w'.entropy) :
    drawnNonce w = drawnNonce w' := by
  simp only [drawnNonce, drawNonce, drawKey, h]

/-- The surroundings once data key and nonce are drawn. -/
def afterDraws (w : World κ) : World κ :=
  { w with entropy := w.entropy.skip (Cipher.keyLength + Cipher.nonceLength) }

/-- Without a path nothing is drawn and no call is made. -/
theorem sealPayload_empty :
    codec.sealPayload key "" plaintext w =
      (.now (.error (.invalidIdentity "object path must not be empty")), w) := rfl

/-- A payload that cannot be encrypted is refused after the draws, before any call. -/
theorem sealPayload_of_encrypt_error {fault : Cipher.CipherError} (hpath : path ≠ "")
    (h : Cipher.encrypt codec.options.algorithm (drawnKey w).val (drawnNonce w).val plaintext
      (ofString path) = .error fault) :
    codec.sealPayload key path plaintext w =
      (.now (.error (.ofCipher fault)), afterDraws w) := by
  simp only [drawnKey, drawnNonce, drawKey, drawNonce] at h
  simp only [sealPayload, associatedData_of_ne hpath, drawKey, drawNonce, bind, StateT.bind]
  rw [h]
  rfl

/-- A payload that can be encrypted leads to one call, for the drawn data key. -/
theorem sealPayload_of_encrypt {box : Cipher.Box} (hpath : path ≠ "")
    (h : Cipher.encrypt codec.options.algorithm (drawnKey w).val (drawnNonce w).val plaintext
      (ofString path) = .ok box) :
    codec.sealPayload key path plaintext w =
      let reply := codec.wrapper.wrap key (drawnKey w).val (afterDraws w)
      let answer := bounded "wrap" codec.options.kmsTimeout reply.1
      ({ answer with value := answer.value.map (assemble (drawnNonce w) box) }, reply.2) := by
  simp only [drawnKey, drawnNonce, drawKey, drawNonce] at h
  simp only [sealPayload, associatedData_of_ne hpath, drawKey, drawNonce, bind, StateT.bind]
  rw [h]
  rfl

/-- Sealing gives an envelope exactly if the payload can be encrypted under the drawn key and nonce
and the service wraps that key in time. -/
theorem sealPayload_eq_ok_iff (e : Envelope) :
    (codec.sealPayload key path plaintext w).1.value = .ok e ↔
      path ≠ "" ∧ ∃ box wrappedKey,
        Cipher.encrypt codec.options.algorithm (drawnKey w).val (drawnNonce w).val plaintext
          (ofString path) = .ok box ∧
        (codec.wrapper.wrap key (drawnKey w).val (afterDraws w)).1.millis ≤
          codec.options.kmsTimeout.ticks ∧
        (codec.wrapper.wrap key (drawnKey w).val (afterDraws w)).1.value = .ok wrappedKey ∧
        e = assemble (drawnNonce w) box wrappedKey := by
  by_cases hpath : path = ""
  · subst hpath
    simp [sealPayload_empty, Timed.now]
  · cases henc : Cipher.encrypt codec.options.algorithm (drawnKey w).val (drawnNonce w).val
        plaintext (ofString path) with
    | error fault =>
      rw [sealPayload_of_encrypt_error codec key path plaintext w hpath henc]
      simp [Timed.now]
    | ok box =>
      rw [sealPayload_of_encrypt codec key path plaintext w hpath henc]
      dsimp only
      constructor
      · intro h
        cases hvalue : (bounded "wrap" codec.options.kmsTimeout
            (codec.wrapper.wrap key (drawnKey w).val (afterDraws w)).1).value with
        | error fault =>
          rw [hvalue] at h
          contradiction
        | ok wrappedKey =>
          rw [hvalue] at h
          obtain ⟨htime, hwrapped⟩ := (bounded_value_eq_ok_iff ..).mp hvalue
          exact ⟨hpath, box, wrappedKey, rfl, htime, hwrapped, (Except.ok.inj h).symm⟩
      · rintro ⟨-, found, wrappedKey, hfound, htime, hwrapped, rfl⟩
        have hvalue := (bounded_value_eq_ok_iff "wrap" codec.options.kmsTimeout _ _).mpr
          ⟨htime, hwrapped⟩
        rw [hvalue, Except.ok.inj hfound]
        rfl

theorem sealToBytes_eq :
    codec.sealToBytes key path plaintext w =
      let answer := codec.sealPayload key path plaintext w
      ({ answer.1 with value := answer.1.value.map encode }, answer.2) := rfl

/-- Sealing to bytes gives the stored form of an envelope that sealing gives. -/
theorem sealToBytes_eq_ok_iff (stored : Bytes) :
    (codec.sealToBytes key path plaintext w).1.value = .ok stored ↔
      ∃ e, (codec.sealPayload key path plaintext w).1.value = .ok e ∧ encode e = stored := by
  rw [sealToBytes_eq]
  dsimp only
  cases (codec.sealPayload key path plaintext w).1.value with
  | ok e => simp [Except.map]
  | error fault => simp [Except.map]

/-! ## Opening -/

/-- Without a path no call is made. -/
theorem openEnvelope_empty (e : Envelope) :
    codec.openEnvelope key "" e w =
      (.now (.error (.invalidIdentity "object path must not be empty")), w) := rfl

/-- With a path the wrapped key is unwrapped, and then the payload decrypted. -/
theorem openEnvelope_of_ne (hpath : path ≠ "") (e : Envelope) :
    codec.openEnvelope key path e w =
      let reply := codec.wrapper.unwrap key e.wrappedKey w
      let answer := bounded "unwrap" codec.options.kmsTimeout reply.1
      ({ answer with
        value := answer.value.bind (decryptWith codec.options.algorithm e (ofString path)) },
        reply.2) := by
  simp only [openEnvelope, associatedData_of_ne hpath]
  rfl

/-- A data key that comes in time is what decides: the payload is what decrypts under it. -/
theorem openEnvelope_of_unwrap (hpath : path ≠ "") (e : Envelope) {dek : Key.Data}
    (htime : (codec.wrapper.unwrap key e.wrappedKey w).1.millis ≤ codec.options.kmsTimeout.ticks)
    (hdek : (codec.wrapper.unwrap key e.wrappedKey w).1.value = .ok dek.val) :
    (codec.openEnvelope key path e w).1.value =
      (Cipher.decrypt codec.options.algorithm dek.val e.nonce.val e.ciphertext e.tag.val
        (ofString path)).mapError .ofCipher := by
  have hvalue := (bounded_value_eq_ok_iff "unwrap" codec.options.kmsTimeout _ _).mpr ⟨htime, hdek⟩
  rw [openEnvelope_of_ne codec key path w hpath]
  dsimp only
  rw [hvalue, ← decryptWith_val]
  rfl

/-- Opening gives a payload exactly if the service gives a data key in time and the payload
decrypts under it. -/
theorem openEnvelope_eq_ok_iff (e : Envelope) :
    (codec.openEnvelope key path e w).1.value = .ok plaintext ↔
      path ≠ "" ∧ ∃ dek : Key.Data,
        (codec.wrapper.unwrap key e.wrappedKey w).1.millis ≤ codec.options.kmsTimeout.ticks ∧
        (codec.wrapper.unwrap key e.wrappedKey w).1.value = .ok dek.val ∧
        Cipher.decrypt codec.options.algorithm dek.val e.nonce.val e.ciphertext e.tag.val
          (ofString path) = .ok plaintext := by
  by_cases hpath : path = ""
  · subst hpath
    simp [openEnvelope_empty, Timed.now]
  · constructor
    · intro h
      rw [openEnvelope_of_ne codec key path w hpath] at h
      dsimp only at h
      cases hvalue : (bounded "unwrap" codec.options.kmsTimeout
          (codec.wrapper.unwrap key e.wrappedKey w).1).value with
      | error fault =>
        rw [hvalue] at h
        contradiction
      | ok material =>
        rw [hvalue] at h
        obtain ⟨htime, hmaterial⟩ := (bounded_value_eq_ok_iff ..).mp hvalue
        obtain ⟨dek, rfl, hdec⟩ := (decryptWith_eq_ok_iff ..).mp h
        exact ⟨hpath, dek, htime, hmaterial, hdec⟩
    · rintro ⟨-, dek, htime, hdek, hdec⟩
      rw [openEnvelope_of_unwrap codec key path w hpath e htime hdek, hdec]
      rfl

/-- Bytes that are no envelope are refused before any call. -/
theorem openBytes_of_error {stored : Bytes} {fault : Error} (h : ofBytes stored = .error fault) :
    codec.openBytes key path stored w = (.now (.error fault), w) := by
  rw [openBytes, h]
  rfl

/-- Bytes of an envelope are opened as that envelope. -/
theorem openBytes_of_ok {stored : Bytes} {e : Envelope} (h : ofBytes stored = .ok e) :
    codec.openBytes key path stored w = codec.openEnvelope key path e w := by
  rw [openBytes, h]

/-- Bytes open exactly if they are the stored form of an envelope that opens. -/
theorem openBytes_eq_ok_iff (stored : Bytes) :
    (codec.openBytes key path stored w).1.value = .ok plaintext ↔
      ∃ e, encode e = stored ∧ (codec.openEnvelope key path e w).1.value = .ok plaintext := by
  simp only [← ofBytes_eq_ok_iff]
  cases hbytes : ofBytes stored with
  | ok e =>
    rw [openBytes_of_ok codec key path w hbytes]
    simp
  | error fault =>
    rw [openBytes_of_error codec key path w hbytes]
    simp [Timed.now]

/-! ## The log -/

/-- Sealing with a log gives the stored form of the same envelope. -/
theorem sealLogged_eq :
    codec.sealLogged key path plaintext w =
      let answer := codec.sealPayload key path plaintext w
      let made (e : Envelope) : Made :=
        ⟨encode e, sealedEvent key path plaintext.length e.wrappedKey.length⟩
      ({ answer.1 with value := answer.1.value.map made }, answer.2) := rfl

theorem openLogged_of_error {stored : Bytes} {fault : Error} (h : ofBytes stored = .error fault) :
    codec.openLogged key path stored w = (.now (.error fault), w) := by
  rw [openLogged, h]
  rfl

theorem openLogged_of_ok {stored : Bytes} {e : Envelope} (h : ofBytes stored = .ok e) :
    codec.openLogged key path stored w =
      let answer := codec.openBytes key path stored w
      let made (plaintext : Bytes) : Made :=
        ⟨plaintext, openedEvent key path e.ciphertext.length plaintext.length⟩
      ({ answer.1 with value := answer.1.value.map made }, answer.2) := by
  rw [openLogged, openBytes, h]
  rfl

/-- Of an object that is sealed the log has the lengths of plaintext and wrapped key. -/
theorem sealLogged_eq_ok_iff (made : Made) :
    (codec.sealLogged key path plaintext w).1.value = .ok made ↔
      ∃ e, (codec.sealPayload key path plaintext w).1.value = .ok e ∧ made.bytes = encode e ∧
        made.event = sealedEvent key path plaintext.length e.wrappedKey.length := by
  rw [sealLogged_eq]
  dsimp only
  cases (codec.sealPayload key path plaintext w).1.value with
  | ok e => simp [Except.map, Made.ext_iff, eq_comm]
  | error fault => simp [Except.map]

/-- Of an object that is opened it has the lengths of ciphertext and plaintext. -/
theorem openLogged_eq_ok_iff (stored : Bytes) (made : Made) :
    (codec.openLogged key path stored w).1.value = .ok made ↔
      ∃ e, ofBytes stored = .ok e ∧
        (codec.openBytes key path stored w).1.value = .ok made.bytes ∧
        made.event = openedEvent key path e.ciphertext.length made.bytes.length := by
  cases hbytes : ofBytes stored with
  | error fault =>
    rw [openLogged_of_error codec key path w hbytes]
    simp [Timed.now]
  | ok e =>
    rw [openLogged_of_ok codec key path w hbytes]
    dsimp only
    cases (codec.openBytes key path stored w).1.value with
    | error fault => simp [Except.map]
    | ok payload =>
      simp only [Except.map, Except.ok.injEq, exists_eq_left', Made.ext_iff]
      constructor
      · rintro ⟨rfl, hevent⟩
        exact ⟨rfl, hevent.symm⟩
      · rintro ⟨rfl, hevent⟩
        exact ⟨rfl, hevent.symm⟩

end Codec
end PathSeal.Envelope
