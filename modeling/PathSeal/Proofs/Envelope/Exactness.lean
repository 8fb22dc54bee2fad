import PathSeal.Proofs.Envelope.Codec
import PathSeal.Proofs.Kms.Local

/-!
# PathSeal.Proofs.Envelope.Exactness

Over master keys in the process, opening accepts exactly the byte strings that
sealing can produce (`openBytes_eq_ok_iff_exists_draws`): whatever opens to a
plaintext is what sealing that plaintext gives for some random bytes, and
whatever sealing gives opens to the plaintext again.

Between the two stands `SealedWith`, which says of stored bytes that given random
bytes make them of a plaintext. Sealing gives such bytes
(`sealToBytes_eq_ok_iff_sealedWith`), and opening takes them apart again layer by
layer: the stored form, the wrapped key, the payload
(`openBytes_eq_ok_iff_sealedWith`).
-/

namespace PathSeal.Envelope

open Bytes
open Kms (World)

/-- Some stored bytes are what the given data key and nonces make of a plaintext. -/
def SealedWith (kms : Kms.Local) (algorithm : Cipher.Algorithm) (key : Key.Handle) (path : String)
    (plaintext : Bytes) (dek : Key.Data) (nonce wrapNonce : Cipher.Nonce) (stored : Bytes) : Prop :=
  path ≠ "" ∧ ∃ master box wrappedKey,
    kms.find? key = some master ∧
    Cipher.encrypt algorithm dek.val nonce.val plaintext (ofString path) = .ok box ∧
    Kms.Local.wrapWith master key wrapNonce.val dek.val = .ok wrappedKey ∧
    stored = encode (assemble nonce box wrappedKey)

/-- The nonce that an in-process service draws after the data key and nonce of a sealing. -/
def Codec.drawnWrapNonce (w : World κ) : Cipher.Nonce := (drawNonce (afterDraws w)).1

section

variable (kms : Kms.Local) (options : Options) (key : Key.Handle) (path : String)
  (plaintext stored : Bytes)

/-- A plaintext takes 92 bytes more when it is sealed. -/
theorem SealedWith.length_stored {algorithm : Cipher.Algorithm} {dek : Key.Data}
    {nonce wrapNonce : Cipher.Nonce}
    (h : SealedWith kms algorithm key path plaintext dek nonce wrapNonce stored) :
    stored.length = plaintext.length + 92 := by
  obtain ⟨-, master, box, wrappedKey, -, hbox, hwrapped, rfl⟩ := h
  obtain ⟨-, hlock⟩ := (Cipher.encrypt_eq_ok_iff algorithm dek nonce plaintext _ box).mp hbox
  have hcipher : box.ciphertext.length = plaintext.length := by
    rw [← hlock, Cipher.Algorithm.length_ciphertext_lock]
  have hkey : wrappedKey.length = 60 := by
    rw [Kms.Local.length_of_wrapWith master key hwrapped, dek.property]
    rfl
  rw [length_encode, encodedLength]
  simp only [assemble, hcipher, hkey, lengthPrefix, Cipher.nonceLength, Cipher.tagLength]
  omega

/-- Only plaintexts within the limit of the cipher are sealed. -/
theorem SealedWith.length_le {algorithm : Cipher.Algorithm} {dek : Key.Data}
    {nonce wrapNonce : Cipher.Nonce}
    (h : SealedWith kms algorithm key path plaintext dek nonce wrapNonce stored) :
    plaintext.length ≤ Cipher.maxLength := by
  obtain ⟨-, -, box, -, -, hbox, -⟩ := h
  exact ((Cipher.encrypt_eq_ok_iff algorithm dek nonce plaintext _ box).mp hbox).1.1

/-- Within the limits of the cipher any random bytes make stored bytes, for a registered handle. -/
theorem exists_sealedWith (algorithm : Cipher.Algorithm) (dek : Key.Data)
    (nonce wrapNonce : Cipher.Nonce) (hkey : kms.contains key) (hpath : path ≠ "")
    (hlen : plaintext.length ≤ Cipher.maxLength)
    (hpathLen : (ofString path).length ≤ Cipher.maxLength)
    (huriLen : (ofString key.uri).length ≤ Cipher.maxLength) :
    ∃ stored, SealedWith kms algorithm key path plaintext dek nonce wrapNonce stored := by
  obtain ⟨master, hmaster⟩ := Option.isSome_iff_exists.mp hkey
  have hbox := (Cipher.encrypt_eq_ok_iff algorithm dek nonce plaintext (ofString path) _).mpr
    ⟨⟨hlen, hpathLen⟩, rfl⟩
  obtain ⟨wrappedKey, hwrapped⟩ := Kms.Local.exists_wrapWith master key wrapNonce dek huriLen
  exact ⟨_, hpath, master, _, wrappedKey, hmaster, hbox, hwrapped, rfl⟩

/-! ## Sealing -/

/-- Sealing gives what the random bytes that it draws make of the plaintext. -/
theorem sealToBytes_eq_ok_iff_sealedWith (w : World κ) :
    ((⟨kms.wrapper, options⟩ : Codec κ).sealToBytes key path plaintext w).1.value = .ok stored ↔
      SealedWith kms options.algorithm key path plaintext (Codec.drawnKey w) (Codec.drawnNonce w)
        (Codec.drawnWrapNonce w) stored := by
  rw [Codec.sealToBytes_eq_ok_iff]
  constructor
  · rintro ⟨e, hseal, rfl⟩
    obtain ⟨hpath, box, wrappedKey, hbox, -, hwrap, rfl⟩ :=
      (Codec.sealPayload_eq_ok_iff ..).mp hseal
    obtain ⟨master, hmaster, hwrapped⟩ := (Kms.Local.wrap_eq_ok_iff ..).mp hwrap
    exact ⟨hpath, master, box, wrappedKey, hmaster, hbox, hwrapped, rfl⟩
  · rintro ⟨hpath, master, box, wrappedKey, hmaster, hbox, hwrapped, rfl⟩
    refine ⟨_, (Codec.sealPayload_eq_ok_iff ..).mpr ?_, rfl⟩
    refine ⟨hpath, box, wrappedKey, hbox, ?_, ?_, rfl⟩
    · rw [Kms.Local.millis_wrap]
      exact Nat.zero_le _
    · exact (Kms.Local.wrap_eq_ok_iff ..).mpr ⟨master, hmaster, hwrapped⟩

/-- The 56 random bytes of a sealing are a data key and two nonces. -/
theorem peek_draws (w : World κ) (dek : Key.Data) (nonce wrapNonce : Cipher.Nonce) :
    w.entropy.peek 56 = dek.val ++ (nonce.val ++ wrapNonce.val) ↔
      Codec.drawnKey w = dek ∧ Codec.drawnNonce w = nonce ∧
        Codec.drawnWrapNonce w = wrapNonce := by
  rw [show 56 = Cipher.keyLength + (Cipher.nonceLength + Cipher.nonceLength) from rfl,
    Entropy.peek_add_eq_append_iff _ dek.property,
    Entropy.peek_add_eq_append_iff _ nonce.property, Entropy.skip_skip]
  simp only [Subtype.ext_iff, Codec.drawnKey, Codec.drawnNonce, Codec.drawKey, Codec.drawNonce,
    Codec.drawnWrapNonce, Codec.afterDraws]

/-! ## Opening -/

/-- Bytes open to a plaintext exactly if some random bytes make them of that plaintext. -/
theorem openBytes_eq_ok_iff_sealedWith (hlen : plaintext.length ≤ Cipher.maxLength) (w : World κ) :
    ((⟨kms.wrapper, options⟩ : Codec κ).openBytes key path stored w).1.value = .ok plaintext ↔
      ∃ dek nonce wrapNonce,
        SealedWith kms options.algorithm key path plaintext dek nonce wrapNonce stored := by
  rw [Codec.openBytes_eq_ok_iff]
  constructor
  · rintro ⟨e, rfl, hopen⟩
    obtain ⟨hpath, dek, -, hunwrap, hdec⟩ := (Codec.openEnvelope_eq_ok_iff ..).mp hopen
    obtain ⟨master, hmaster, hdek⟩ := (Kms.Local.unwrap_eq_ok_iff ..).mp hunwrap
    obtain ⟨wrapNonce, hwrapped⟩ := (Kms.Local.unwrapWith_eq_ok_iff ..).mp hdek
    have hbox := (Cipher.decrypt_eq_ok_iff_encrypt _ dek e.nonce e.ciphertext _ plaintext e.tag
      hlen).mp hdec
    exact ⟨dek, e.nonce, wrapNonce, hpath, master, _, e.wrappedKey, hmaster, hbox, hwrapped, rfl⟩
  · rintro ⟨dek, nonce, wrapNonce, hpath, master, box, wrappedKey, hmaster, hbox, hwrapped, rfl⟩
    refine ⟨_, rfl, (Codec.openEnvelope_eq_ok_iff ..).mpr ⟨hpath, dek, ?_, ?_, ?_⟩⟩
    · rw [Kms.Local.millis_unwrap]
      exact Nat.zero_le _
    · have hdek := (Kms.Local.unwrapWith_eq_ok_iff ..).mpr ⟨wrapNonce, hwrapped⟩
      exact (Kms.Local.unwrap_eq_ok_iff ..).mpr ⟨master, hmaster, hdek⟩
    · exact (Cipher.decrypt_eq_ok_iff_encrypt _ dek nonce box.ciphertext _ plaintext box.tag
        hlen).mpr hbox

/-- What sealing gives opens again, at any time. -/
theorem openBytes_of_sealToBytes {w : World κ}
    (h : ((⟨kms.wrapper, options⟩ : Codec κ).sealToBytes key path plaintext w).1.value =
      .ok stored) (w' : World κ) :
    ((⟨kms.wrapper, options⟩ : Codec κ).openBytes key path stored w').1.value = .ok plaintext := by
  have hsealed := (sealToBytes_eq_ok_iff_sealedWith ..).mp h
  exact (openBytes_eq_ok_iff_sealedWith kms options key path plaintext stored
    hsealed.length_le w').mpr ⟨_, _, _, hsealed⟩

theorem millis_openBytes (w : World κ) :
    ((⟨kms.wrapper, options⟩ : Codec κ).openBytes key path stored w).1.millis = 0 := by
  cases hbytes : ofBytes stored with
  | error fault => rw [Codec.openBytes_of_error _ key path w hbytes, Kms.Timed.now]
  | ok e =>
    rw [Codec.openBytes_of_ok _ key path w hbytes]
    by_cases hpath : path = ""
    · rw [hpath, Codec.openEnvelope_empty, Kms.Timed.now]
    · rw [Codec.openEnvelope_of_ne _ key path w hpath e]
      dsimp only
      rw [millis_bounded, Kms.Local.millis_unwrap, Nat.zero_min]

end

/-! ## Exactness -/

/-- **Opening accepts exactly what sealing can produce.** Bytes open to a plaintext if and only if
there are a data key and two nonces such that sealing the plaintext, whenever these are the random
bytes it draws, gives exactly those bytes. In particular whatever sealing gives opens to the
plaintext, with any random bytes; and for a registered handle sealing never fails within the limits
of the cipher. -/
theorem openBytes_eq_ok_iff_exists_draws (kms : Kms.Local) (options : Options) (key : Key.Handle)
    (path : String) (plaintext : Bytes) (hlen : plaintext.length ≤ Cipher.maxLength) :
    let codec : Codec κ := ⟨kms.wrapper, options⟩
    (∀ (stored : Bytes) (w : World κ),
      (codec.openBytes key path stored w).1.value = .ok plaintext ↔
        ∃ (dek : Key.Data) (nonce wrapNonce : Cipher.Nonce), ∀ w' : World κ,
          w'.entropy.peek 56 = dek.val ++ (nonce.val ++ wrapNonce.val) →
            (codec.sealToBytes key path plaintext w').1.value = .ok stored) ∧
    (∀ (stored : Bytes) (w w' : World κ),
      (codec.sealToBytes key path plaintext w).1.value = .ok stored →
        (codec.openBytes key path stored w').1.value = .ok plaintext) ∧
    (kms.contains key → path ≠ "" → (ofString path).length ≤ Cipher.maxLength →
      (ofString key.uri).length ≤ Cipher.maxLength →
        ∀ w : World κ,
          ∃ stored, (codec.sealToBytes key path plaintext w).1.value = .ok stored) := by
  intro codec
  refine ⟨?_, ?_, ?_⟩
  · intro stored w
    rw [openBytes_eq_ok_iff_sealedWith kms options key path plaintext stored hlen]
    constructor
    · rintro ⟨dek, nonce, wrapNonce, hsealed⟩
      refine ⟨dek, nonce, wrapNonce, ?_⟩
      intro w' hdraws
      obtain ⟨hdek, hnonce, hwrapNonce⟩ := (peek_draws ..).mp hdraws
      rw [sealToBytes_eq_ok_iff_sealedWith, hdek, hnonce, hwrapNonce]
      exact hsealed
    · rintro ⟨dek, nonce, wrapNonce, hseal⟩
      -- Some stream does begin with these bytes.
      let seed := (dek.val ++ (nonce.val ++ wrapNonce.val)).toArray
      let w' : World κ := ⟨Entropy.cyclic seed, w.kms⟩
      have hsize : seed.size = 56 := by
        have hdek : dek.val.length = 32 := dek.property
        have hnonce : nonce.val.length = 12 := nonce.property
        have hwrapNonce : wrapNonce.val.length = 12 := wrapNonce.property
        simp [seed, hdek, hnonce, hwrapNonce]
      have hdraws : w'.entropy.peek 56 = dek.val ++ (nonce.val ++ wrapNonce.val) := by
        rw [← hsize]
        exact Entropy.peek_cyclic seed
      have hsealed := (sealToBytes_eq_ok_iff_sealedWith ..).mp (hseal w' hdraws)
      exact ⟨_, _, _, hsealed⟩
  · intro stored w w' hseal
    exact openBytes_of_sealToBytes kms options key path plaintext stored hseal w'
  · intro hkey hpath hpathLen huriLen w
    obtain ⟨stored, hsealed⟩ := exists_sealedWith kms key path plaintext options.algorithm
      (Codec.drawnKey w) (Codec.drawnNonce w) (Codec.drawnWrapNonce w) hkey hpath hlen hpathLen
      huriLen
    exact ⟨stored, (sealToBytes_eq_ok_iff_sealedWith ..).mpr hsealed⟩

/-- An object sealed with the misuse-resistant algorithm under the only registered key. -/
theorem sealToBytes_then_openBytes :
    let key : Key.Handle := ⟨.inProcess, "test"⟩
    let kms := Kms.Local.empty.register key Key.Data.erased
    let codec : Codec Unit := ⟨kms.wrapper, ⟨.aes256GcmSiv, .ofSeconds 0⟩⟩
    let w : World Unit := ⟨.cyclic #[], ()⟩
    (ofString "weights").length ≤ Cipher.maxLength ∧
      ∃ stored,
        (codec.sealToBytes key "gs://bucket/run" (ofString "weights") w).1.value = .ok stored ∧
        (codec.openBytes key "gs://bucket/run" stored w).1.value = .ok (ofString "weights") := by
  intro key kms codec w
  have hlen : (ofString "weights").length ≤ Cipher.maxLength := by decide
  have hexact := @openBytes_eq_ok_iff_exists_draws Unit kms ⟨.aes256GcmSiv, .ofSeconds 0⟩ key
    "gs://bucket/run" (ofString "weights") hlen
  obtain ⟨-, hround, hseals⟩ := hexact
  obtain ⟨stored, hstored⟩ := hseals (by decide) (by decide) (by decide) (by decide) w
  exact ⟨hlen, stored, hstored, hround stored w w hstored⟩

end PathSeal.Envelope
