import PathSeal.Kms.Script
import PathSeal.Proofs.Envelope.Faults

/-!
# PathSeal.Proofs.Envelope.Opening

Opening is an exact decision, over any key service and for any bytes. Bytes that are
not the stored form of an envelope are malformed and an empty path is no identity; both
are refused before any call. Otherwise there is one call, and what the service replies
decides by the rules of `Ruling` (`openingOf_eq_iff_ruling`), of which at most one
applies.

The last two rules speak of encryption instead of decryption: the payload is the
plaintext that encrypts to the ciphertext and the tag of the envelope, and without one
the tag does not verify (`decrypt_eq_authentication_iff`).
-/

namespace PathSeal.Envelope

open Bytes
open Kms (World Timed Call)

/-- A plaintext that encrypts to the ciphertext and the tag of an envelope. -/
def Encrypts (algorithm : Cipher.Algorithm) (e : Envelope) (path : String)
    (material plaintext : Bytes) : Prop :=
  Cipher.encrypt algorithm material e.nonce.val plaintext (ofString path) =
    .ok ⟨e.ciphertext, e.tag⟩

/-- What opening an envelope for a path comes to, once the key service has replied. -/
inductive Ruling (options : Options) (e : Envelope) (path : String)
    (reply : Timed (Except Kms.Error Bytes)) : Except Error Bytes → Prop where
  /-- The reply comes after the time limit. -/
  | late (htime : options.kmsTimeout.ticks < reply.millis) :
    Ruling options e path reply
      (.error (.kmsUnavailable s!"KMS unwrap timed out after {options.kmsTimeout.text}"))
  /-- The service fails. -/
  | failed (fault : Kms.Error) (conveyed : Error) (htime : reply.millis ≤ options.kmsTimeout.ticks)
      (hreply : reply.value = .error fault) (hconveys : Conveys fault conveyed) :
    Ruling options e path reply (.error conveyed)
  /-- What the service gives back is no key. -/
  | noKey (material : Bytes) (htime : reply.millis ≤ options.kmsTimeout.ticks)
      (hreply : reply.value = .ok material) (hlength : material.length ≠ Cipher.keyLength) :
    Ruling options e path reply (.error (.integrity (.wrappedKey
      (s!"unwrapped key has invalid length: " ++
        s!"expected {Cipher.keyLength} bytes, got {material.length}"))))
  /-- Under the key no plaintext has the tag of the envelope. -/
  | unauthentic (material : Bytes) (htime : reply.millis ≤ options.kmsTimeout.ticks)
      (hreply : reply.value = .ok material) (hlength : material.length = Cipher.keyLength)
      (hnone : ∀ plaintext, ¬Encrypts options.algorithm e path material plaintext) :
    Ruling options e path reply (.error (.integrity .authentication))
  /-- Under the key the plaintext is the payload of the envelope. -/
  | opened (material plaintext : Bytes) (htime : reply.millis ≤ options.kmsTimeout.ticks)
      (hreply : reply.value = .ok material)
      (hencrypts : Encrypts options.algorithm e path material plaintext) :
    Ruling options e path reply (.ok plaintext)

/-! ## Payloads -/

/-- The ciphertext of an envelope is within the limit of the cipher if its stored form is. -/
theorem length_ciphertext_le {e : Envelope} (h : (encode e).length ≤ Cipher.maxLength) :
    e.ciphertext.length ≤ Cipher.maxLength := by
  rw [length_encode, encodedLength] at h
  omega

section

variable (algorithm : Cipher.Algorithm) {e : Envelope} (path : String) (dek : Key.Data)

/-- Nothing encrypts under material that is no key. -/
theorem Encrypts.length_material {algorithm : Cipher.Algorithm} {path : String}
    {material plaintext : Bytes} (h : Encrypts algorithm e path material plaintext) :
    material.length = Cipher.keyLength := by
  by_contra hlength
  have hcheck : Cipher.checkLengths material e.nonce.val = .error (.keyLength material.length) :=
    (Cipher.checkLengths_eq_error_iff _).mpr (.inl ⟨hlength, rfl⟩)
  rw [Encrypts, Cipher.encrypt_of_checkLengths algorithm hcheck] at h
  contradiction

/-- An envelope within the limit of the cipher decrypts exactly to what encrypts to it. -/
theorem decrypt_eq_ok_iff_encrypts (hlen : e.ciphertext.length ≤ Cipher.maxLength)
    (plaintext : Bytes) :
    Cipher.decrypt algorithm dek.val e.nonce.val e.ciphertext e.tag.val (ofString path) =
        .ok plaintext ↔
      Encrypts algorithm e path dek.val plaintext := by
  by_cases hplain : plaintext.length ≤ Cipher.maxLength
  · rw [Encrypts, Cipher.decrypt_eq_ok_iff_encrypt algorithm dek e.nonce e.ciphertext _ plaintext
      e.tag hplain]
  · -- Neither side holds of a plaintext beyond the limit.
    constructor
    · intro h
      have hsame := Cipher.length_of_decrypt algorithm dek e.nonce h
      omega
    · intro h
      have hlimits := ((Cipher.encrypt_eq_ok_iff ..).mp h).1.1
      contradiction

/-- It fails to authenticate exactly if nothing encrypts to it. -/
theorem decrypt_eq_authentication_iff (hlen : e.ciphertext.length ≤ Cipher.maxLength) :
    Cipher.decrypt algorithm dek.val e.nonce.val e.ciphertext e.tag.val (ofString path) =
        .error .authentication ↔
      ∀ plaintext, ¬Encrypts algorithm e path dek.val plaintext := by
  simp only [← decrypt_eq_ok_iff_encrypts algorithm path dek hlen]
  cases hdec : Cipher.decrypt algorithm dek.val e.nonce.val e.ciphertext e.tag.val
      (ofString path) with
  | ok found => simp
  | error fault =>
    have hkey : dek.val.length = Cipher.keyLength := dek.property
    have hnonce : e.nonce.val.length = Cipher.nonceLength := e.nonce.property
    have htag : e.tag.val.length = Cipher.tagLength := e.tag.property
    have hfault := Cipher.fault_of_decrypt algorithm _ _ _ hdec
    simp only [hkey, hnonce, htag, ne_eq, not_true_eq_false, if_false] at hfault
    simp [hfault]

end

/-! ## The decision -/

namespace Codec

variable (codec : Codec κ) (key : Key.Handle) (path : String) (stored : Bytes) (w : World κ)

/-- The calls that an attempt to open makes. -/
def callsToOpen : List Call :=
  (codec.recorded.openBytes key path stored ⟨w.entropy, (w.kms, [])⟩).2.kms.2

theorem callsToOpen_eq : codec.callsToOpen key path stored w = openingCalls key path stored := by
  rw [callsToOpen, openBytes_recorded]
  simp

variable {stored} {e : Envelope} (hlen : e.ciphertext.length ≤ Cipher.maxLength)

/-- What an attempt makes of the reply to its call. -/
def openingOf (e : Envelope) : Except Error Bytes :=
  (codec.unwrapAnswer key w e).value.bind
    (decryptWith codec.options.algorithm e (ofString path))

/-- An envelope is opened for a path by what is made of the reply, in the surroundings that the call
leaves. -/
theorem openBytes_encode (hpath : path ≠ "") :
    codec.openBytes key path (encode e) w =
      (⟨codec.openingOf key path w e, (codec.unwrapAnswer key w e).millis⟩,
        (codec.wrapper.unwrap key e.wrappedKey w).2) := by
  have hbytes := (ofBytes_eq_ok_iff (encode e) e).mpr rfl
  rw [codec.openBytes_of_ok key path w hbytes, codec.openEnvelope_of_ne key path w hpath]
  rfl

theorem openBytes_encode_empty :
    codec.openBytes key "" (encode e) w =
      (.now (.error (.invalidIdentity "object path must not be empty")), w) := by
  have hbytes := (ofBytes_eq_ok_iff (encode e) e).mpr rfl
  rw [codec.openBytes_of_ok key "" w hbytes, openEnvelope_empty]

/-- Bytes that are no envelope are malformed. -/
theorem exists_openBytes_of_ne_encode {stored : Bytes} (h : ∀ e, encode e ≠ stored) :
    ∃ fault, ofBytes stored = .error fault ∧ ∃ reason, fault = .malformed reason ∧
      codec.openBytes key path stored w = (.now (.error fault), w) := by
  cases hbytes : ofBytes stored with
  | ok e => exact absurd ((ofBytes_eq_ok_iff stored e).mp hbytes) (h e)
  | error fault =>
    obtain ⟨reason, hreason⟩ := exists_malformed_of_ofBytes hbytes
    exact ⟨fault, rfl, reason, hreason, codec.openBytes_of_error key path w hbytes⟩

include hlen

/-- What is made of a reply is by one of the rules. -/
theorem ruling_openingOf :
    Ruling codec.options e path (codec.wrapper.unwrap key e.wrappedKey w).1
      (codec.openingOf key path w e) := by
  rw [openingOf, unwrapAnswer]
  generalize (codec.wrapper.unwrap key e.wrappedKey w).1 = reply
  by_cases htime : reply.millis ≤ codec.options.kmsTimeout.ticks
  · rw [bounded_of_le "unwrap" htime]
    cases hreply : reply.value with
    | error fault => exact .failed fault _ htime hreply ((conveys_iff fault _).mpr rfl)
    | ok material =>
      show Ruling _ e path reply (decryptWith codec.options.algorithm e (ofString path) material)
      cases hdec : decryptWith codec.options.algorithm e (ofString path) material with
      | ok plaintext =>
        obtain ⟨dek, rfl, hplain⟩ := (decryptWith_eq_ok_iff ..).mp hdec
        have hencrypts := (decrypt_eq_ok_iff_encrypts _ path dek hlen plaintext).mp hplain
        exact .opened dek.val plaintext htime hreply hencrypts
      | error fault =>
        rcases (decryptWith_eq_error_iff ..).mp hdec with ⟨hlength, rfl⟩ | ⟨dek, rfl, hauth, rfl⟩
        · exact .noKey material htime hreply hlength
        · have hnone := (decrypt_eq_authentication_iff _ path dek hlen).mp hauth
          exact .unauthentic dek.val htime hreply dek.property hnone
  · have hlate := Nat.lt_of_not_le htime
    rw [bounded_of_lt "unwrap" hlate]
    exact .late hlate

/-- What a rule says is what is made of the reply. -/
theorem openingOf_of_ruling {result : Except Error Bytes}
    (h : Ruling codec.options e path (codec.wrapper.unwrap key e.wrappedKey w).1 result) :
    codec.openingOf key path w e = result := by
  rw [openingOf, unwrapAnswer]
  cases h with
  | late htime =>
    rw [bounded_of_lt "unwrap" htime]
    rfl
  | failed fault conveyed htime hreply hconveys =>
    rw [bounded_of_le "unwrap" htime, hreply, ← (conveys_iff ..).mp hconveys]
    rfl
  | noKey material htime hreply hlength =>
    rw [bounded_of_le "unwrap" htime, hreply]
    exact (decryptWith_eq_error_iff ..).mpr (.inl ⟨hlength, rfl⟩)
  | unauthentic material htime hreply hlength hnone =>
    have hauth := (decrypt_eq_authentication_iff _ path ⟨material, hlength⟩ hlen).mpr hnone
    rw [bounded_of_le "unwrap" htime, hreply]
    exact (decryptWith_eq_error_iff ..).mpr (.inr ⟨⟨material, hlength⟩, rfl, hauth, rfl⟩)
  | opened material plaintext htime hreply hencrypts =>
    have hplain := (decrypt_eq_ok_iff_encrypts _ path ⟨material, hencrypts.length_material⟩ hlen
      plaintext).mpr hencrypts
    rw [bounded_of_le "unwrap" htime, hreply]
    exact (decryptWith_eq_ok_iff ..).mpr ⟨⟨material, hencrypts.length_material⟩, rfl, hplain⟩

/-- So the rules leave nothing open, and do not contradict each other. -/
theorem openingOf_eq_iff_ruling (result : Except Error Bytes) :
    codec.openingOf key path w e = result ↔
      Ruling codec.options e path (codec.wrapper.unwrap key e.wrappedKey w).1 result := by
  constructor
  · intro h
    rw [← h]
    exact codec.ruling_openingOf key path w hlen
  · exact codec.openingOf_of_ruling key path w hlen

end Codec

/-! ## Rulings -/

section

variable {options : Options} {e : Envelope} {path : String}
  {reply : Timed (Except Kms.Error Bytes)}

/-- A ruling never finds the envelope malformed. -/
theorem Ruling.ne_malformed {result : Except Error Bytes}
    (h : Ruling options e path reply result) (reason : String) :
    result ≠ .error (.malformed reason) := by
  cases h with
  | failed _ _ _ _ hconveys => cases hconveys <;> nofun
  | _ => nofun

/-- A ruling never blames the cipher. -/
theorem Ruling.ne_internal {result : Except Error Bytes}
    (h : Ruling options e path reply result) (detail : String) :
    result ≠ .error (.internal detail) := by
  cases h with
  | failed _ _ _ _ hconveys => cases hconveys <;> nofun
  | _ => nofun

/-- A payload is as long as its ciphertext. -/
theorem Ruling.length_plaintext {plaintext : Bytes}
    (h : Ruling options e path reply (.ok plaintext)) :
    plaintext.length = e.ciphertext.length := by
  cases h with
  | opened material plaintext htime hreply hencrypts =>
    have hlock := ((Cipher.encrypt_eq_ok_iff options.algorithm
      ⟨material, hencrypts.length_material⟩ e.nonce plaintext _ _).mp hencrypts).2
    have hlength := options.algorithm.length_ciphertext_lock material e.nonce.val plaintext
      (ofString path)
    rw [hlock] at hlength
    exact hlength.symm

end

/-- So no opening ever does. -/
theorem Codec.openBytes_ne_internal (codec : Codec κ) (key : Key.Handle) (path : String)
    {stored : Bytes} (hstored : stored.length ≤ Cipher.maxLength) (w : World κ)
    (detail : String) :
    (codec.openBytes key path stored w).1.value ≠ .error (.internal detail) := by
  by_cases hexists : ∃ e, encode e = stored
  · obtain ⟨e, rfl⟩ := hexists
    by_cases hpath : path = ""
    · rw [hpath, codec.openBytes_encode_empty]
      intro h
      cases h
    · rw [codec.openBytes_encode key path w hpath]
      have hruling := codec.ruling_openingOf key path w (length_ciphertext_le hstored)
      exact hruling.ne_internal detail
  · obtain ⟨fault, -, reason, rfl, hopened⟩ :=
      codec.exists_openBytes_of_ne_encode key path w (not_exists.mp hexists)
    rw [hopened]
    intro h
    cases h

/-- **Opening is an exact decision.** Bytes that are not the stored form of an envelope are
malformed, and an empty path is no identity; neither makes a call. Otherwise there is one call, to
unwrap just the wrapped key of the envelope under the given handle, and an opening comes to a result
if and only if a rule gives that result for the reply. A payload is as long as the ciphertext. The
surroundings are left as they were, or as the call leaves them, so opening itself draws nothing; the
cipher is never blamed, and no envelope is found malformed after the call. -/
theorem openBytes_decides (codec : Codec κ) (key : Key.Handle) (path : String) (stored : Bytes)
    (hstored : stored.length ≤ Cipher.maxLength) (w : World κ) :
    let opened := codec.openBytes key path stored w
    let calls := codec.callsToOpen key path stored w
    ((∀ e, encode e ≠ stored) →
      (∃ reason, opened = (.now (.error (.malformed reason)), w)) ∧ calls = []) ∧
    (∀ e, encode e = stored → path = "" →
      opened = (.now (.error (.invalidIdentity "object path must not be empty")), w) ∧
        calls = []) ∧
    (∀ e, encode e = stored → path ≠ "" →
      let reply := codec.wrapper.unwrap key e.wrappedKey w
      calls = [.unwrap key e.wrappedKey.bytes] ∧ opened.2 = reply.2 ∧
      (∀ result, opened.1.value = result ↔ Ruling codec.options e path reply.1 result) ∧
      (∀ plaintext, opened.1.value = .ok plaintext → plaintext.length = e.ciphertext.length) ∧
      ∀ reason, opened.1.value ≠ .error (.malformed reason)) ∧
    ∀ detail, opened.1.value ≠ .error (.internal detail) := by
  intro opened calls
  have hcalls : calls = Codec.openingCalls key path stored := codec.callsToOpen_eq key path stored w
  refine ⟨?_, ?_, ?_, codec.openBytes_ne_internal key path hstored w⟩
  · intro hno
    obtain ⟨fault, hbytes, reason, rfl, hopened⟩ :=
      codec.exists_openBytes_of_ne_encode key path w hno
    rw [Codec.openingCalls, hbytes, ite_self] at hcalls
    exact ⟨⟨reason, hopened⟩, hcalls⟩
  · intro e he hpath
    rw [Codec.openingCalls, if_pos hpath] at hcalls
    dsimp only [opened]
    rw [← he, hpath]
    exact ⟨codec.openBytes_encode_empty key w, hcalls⟩
  · intro e he hpath
    rw [← he] at hstored
    have hlen := length_ciphertext_le hstored
    have hruling := codec.ruling_openingOf key path w hlen
    have hopened := codec.openBytes_encode key path w (e := e) hpath
    rw [Codec.openingCalls, if_neg hpath, (ofBytes_eq_ok_iff stored e).mpr he] at hcalls
    rw [he] at hopened
    dsimp only [opened]
    rw [hopened]
    refine ⟨hcalls, rfl, codec.openingOf_eq_iff_ruling key path w hlen, ?_, hruling.ne_malformed⟩
    intro plaintext hplain
    have hopens : codec.openingOf key path w e = .ok plaintext := hplain
    rw [hopens] at hruling
    exact hruling.length_plaintext

/-- An envelope whose data key a scripted service gives back at the very end of the time limit. The
one call is for its wrapped key, and the payload is what was encrypted. -/
theorem openBytes_decides_at_limit :
    let key : Key.Handle := ⟨.inProcess, "test"⟩
    let codec : Codec Kms.Script := ⟨Kms.Script.wrapper, ⟨.aes256GcmSiv, .ofSeconds 10⟩⟩
    let dek : Key.Data := Key.Data.erased
    let weights := ofString "weights"
    let path := "gs://bucket/run"
    let e : Envelope := assemble (Codec.drawnNonce ⟨.cyclic #[], ()⟩)
      (codec.options.algorithm.lock dek.val (Codec.drawnNonce ⟨.cyclic #[], ()⟩).val weights
        (ofString path)) ⟨[1, 2, 3], by decide, by decide⟩
    let w : World Kms.Script := ⟨.cyclic #[], [⟨10000, .give dek.val⟩]⟩
    (encode e).length ≤ Cipher.maxLength ∧
      codec.callsToOpen key path (encode e) w = [.unwrap key [1, 2, 3]] ∧
      (codec.openBytes key path (encode e) w).1.value = .ok weights := by
  intro key codec dek weights path e w
  have hcipher : e.ciphertext.length = weights.length := Cipher.Algorithm.length_ciphertext_lock ..
  have hstored : (encode e).length ≤ Cipher.maxLength := by
    rw [length_encode, encodedLength, hcipher]
    decide
  have hencrypts : Encrypts codec.options.algorithm e path dek.val weights :=
    (Cipher.encrypt_eq_ok_iff _ dek e.nonce weights _ _).mpr ⟨⟨by decide, by decide⟩, rfl⟩
  have hruling : Ruling codec.options e path (codec.wrapper.unwrap key e.wrappedKey w).1
      (.ok weights) := .opened dek.val weights (by decide) rfl hencrypts
  obtain ⟨-, -, hdecides, -⟩ := openBytes_decides codec key path (encode e) hstored w
  obtain ⟨hcalls, -, hresult, -, -⟩ := hdecides e rfl (by decide)
  exact ⟨hstored, hcalls, (hresult _).mpr hruling⟩

end PathSeal.Envelope
