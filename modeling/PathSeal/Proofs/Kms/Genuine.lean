import PathSeal.Proofs.Kms.Local

/-!
# PathSeal.Proofs.Kms.Genuine

What the service inside the process takes for a wrapped key. Under a registered handle it
unwraps just the genuine ones: the nonce, the ciphertext and the tag of some data key,
encrypted under the handle's master key with the handle's URI. Everything else is taken
for tampering, however short it is, and never for a service that does not work, which
would be asked again.

Wrapping makes a genuine one with the next nonce of the stream, for every data key that
fits (`Local.calls_genuine`).
-/

namespace PathSeal.Kms

open Bytes

/-- A wrapped key is that of a data key: a nonce, and the ciphertext and the tag of the data key
with that nonce under the master key of a handle, for its URI. -/
def Genuine (master : MasterKey) (handle : Key.Handle) (wrapped : Key.Wrapped) (dek : Bytes) :
    Prop :=
  ∃ (nonce : Cipher.Nonce) (box : Cipher.Box),
    Cipher.encrypt .aes256Gcm master.val nonce.val dek (ofString handle.uri) = .ok box ∧
      wrapped.bytes = nonce.val ++ (box.ciphertext ++ box.tag.val)

namespace Local

variable (master : MasterKey) (handle : Key.Handle)

/-- Genuine wrapped keys are what wrapping gives. -/
theorem genuine_iff (wrapped : Key.Wrapped) (dek : Bytes) :
    Genuine master handle wrapped dek ↔
      ∃ nonce : Cipher.Nonce, wrapWith master handle nonce.val dek = .ok wrapped := by
  simp only [Genuine, wrapWith_eq_ok_iff]

theorem le_length_of_genuine {wrapped : Key.Wrapped} {dek : Bytes}
    (h : Genuine master handle wrapped dek) :
    Cipher.nonceLength + Cipher.tagLength ≤ wrapped.length := by
  obtain ⟨nonce, hwrap⟩ := (genuine_iff master handle wrapped dek).mp h
  have hlen := length_of_wrapWith master handle hwrap
  omega

/-- The genuine wrapped keys unwrap. -/
theorem unwrapWith_eq_ok_iff_genuine (wrapped : Key.Wrapped) (dek : Bytes) :
    unwrapWith master handle wrapped.bytes = .ok dek ↔ Genuine master handle wrapped dek := by
  rw [unwrapWith_eq_ok_iff, genuine_iff]

/-- All others are taken for tampering. -/
theorem unwrapWith_of_not_genuine {wrapped : Key.Wrapped}
    (h : ∀ dek, ¬Genuine master handle wrapped dek) :
    ∃ detail, unwrapWith master handle wrapped.bytes = .error (.integrity detail) := by
  cases hunwrap : unwrapWith master handle wrapped.bytes with
  | ok dek => exact absurd ((unwrapWith_eq_ok_iff_genuine ..).mp hunwrap) (h dek)
  | error e =>
    obtain ⟨detail, rfl⟩ := exists_integrity_of_unwrapWith master handle hunwrap
    exact ⟨detail, rfl⟩

/-- A data key that does not fit makes the service count as unavailable. -/
theorem wrapWith_of_not_fits (nonce : Cipher.Nonce) {dek : Bytes}
    (h : ¬(dek.length ≤ longestDek ∧ (ofString handle.uri).length ≤ Cipher.maxLength)) :
    ∃ detail, wrapWith master handle nonce.val dek = .error (.unavailable detail) := by
  cases hwrap : wrapWith master handle nonce.val dek with
  | ok wrapped => exact absurd ((exists_wrapWith_iff ..).mp ⟨wrapped, hwrap⟩) h
  | error e =>
    obtain ⟨detail, rfl⟩ := exists_unavailable_of_wrapWith master handle hwrap
    exact ⟨detail, rfl⟩

/-- **The service inside the process takes just the genuine wrapped keys.** Under a registered
handle a wrapped key unwraps to a data key if and only if it is a genuine one of it; all others,
with those that are too short for a nonce and a tag among them, are taken for tampering. Wrapping
draws a nonce and gives the genuine wrapped key with it, if the data key fits; a longer one makes
the service count as unavailable. A handle that is not registered is not found, and nothing is drawn
for it. All answers come at once, and unwrapping draws nothing. -/
theorem calls_genuine (kms : Local) (w : World κ) :
    (∀ master, kms.find? handle = some master →
      (∀ wrapped dek, kms.wrapper.unwrap handle wrapped w = (.now (.ok dek), w) ↔
        Genuine master handle wrapped dek) ∧
      (∀ wrapped, (∀ dek, ¬Genuine master handle wrapped dek) →
        ∃ detail, kms.wrapper.unwrap handle wrapped w = (.now (.error (.integrity detail)), w)) ∧
      (∀ wrapped : Key.Wrapped, wrapped.length < Cipher.nonceLength + Cipher.tagLength →
        ∃ detail, kms.wrapper.unwrap handle wrapped w = (.now (.error (.integrity detail)), w)) ∧
      ∀ dek, let nonce := w.entropy.peek Cipher.nonceLength
        let after := { w with entropy := w.entropy.skip Cipher.nonceLength }
        (dek.length ≤ longestDek ∧ (ofString handle.uri).length ≤ Cipher.maxLength →
          ∃ box wrapped,
            Cipher.encrypt .aes256Gcm master.val nonce dek (ofString handle.uri) = .ok box ∧
            wrapped.bytes = nonce ++ (box.ciphertext ++ box.tag.val) ∧
            kms.wrapper.wrap handle dek w = (.now (.ok wrapped), after)) ∧
        (¬(dek.length ≤ longestDek ∧ (ofString handle.uri).length ≤ Cipher.maxLength) →
          ∃ detail, kms.wrapper.wrap handle dek w = (.now (.error (.unavailable detail)), after))) ∧
    (kms.find? handle = none →
      (∀ wrapped, kms.wrapper.unwrap handle wrapped w = (.now (.error (unknown handle)), w)) ∧
      ∀ dek, kms.wrapper.wrap handle dek w = (.now (.error (unknown handle)), w)) := by
  refine ⟨?_, ?_⟩
  · intro master hfind
    have hunwrap (wrapped : Key.Wrapped) (answer : Except Error Bytes) :
        kms.wrapper.unwrap handle wrapped w = (.now answer, w) ↔
          unwrapWith master handle wrapped.bytes = answer := by
      rw [unwrap_of_find? handle kms w hfind]
      constructor
      · intro h
        exact congrArg (fun result => result.1.value) h
      · rintro rfl
        rfl
    have htampered (wrapped : Key.Wrapped) (h : ∀ dek, ¬Genuine master handle wrapped dek) :
        ∃ detail, kms.wrapper.unwrap handle wrapped w = (.now (.error (.integrity detail)), w) := by
      simp only [hunwrap]
      exact unwrapWith_of_not_genuine master handle h
    refine ⟨?_, htampered, ?_, ?_⟩
    · intro wrapped dek
      rw [hunwrap, unwrapWith_eq_ok_iff_genuine]
    · intro wrapped hshort
      apply htampered
      intro dek hgenuine
      have hlong := le_length_of_genuine master handle hgenuine
      omega
    · intro dek nonce after
      let drawn : Cipher.Nonce := ⟨nonce, Entropy.length_peek ..⟩
      have hwrap (answer : Except Error Key.Wrapped)
          (h : wrapWith master handle drawn.val dek = answer) :
          kms.wrapper.wrap handle dek w = (.now answer, after) := by
        rw [wrap_of_find? handle kms w hfind, ← h]
      constructor
      · intro hfits
        obtain ⟨wrapped, hwrapped⟩ := (exists_wrapWith_iff master handle drawn dek).mpr hfits
        obtain ⟨box, hbox, hbytes⟩ := (wrapWith_eq_ok_iff ..).mp hwrapped
        exact ⟨box, wrapped, hbox, hbytes, hwrap _ hwrapped⟩
      · intro hfits
        obtain ⟨detail, hdetail⟩ := wrapWith_of_not_fits master handle drawn hfits
        exact ⟨detail, hwrap _ hdetail⟩
  · intro hfind
    exact ⟨unwrap_of_not_found handle kms w hfind, wrap_of_not_found handle kms w hfind⟩

/-- The longest data key is wrapped and unwraps again, one byte more is too much, 27 bytes are no
wrapped key, and another handle is not found. -/
theorem calls_genuine_at_limits :
    let handle : Key.Handle := ⟨.inProcess, "models"⟩
    let master : MasterKey := ⟨List.replicate 32 7, rfl⟩
    let kms := Local.empty.register handle master
    let w : World Unit := ⟨.cyclic #[], ()⟩
    let after : World Unit := { w with entropy := w.entropy.skip 12 }
    let short : Key.Wrapped := ⟨List.replicate 27 0, by decide, by decide⟩
    kms.find? handle = some master ∧
      (∃ wrapped, kms.wrapper.wrap handle (List.replicate 8164 0) w = (.now (.ok wrapped), after) ∧
        kms.wrapper.unwrap handle wrapped w = (.now (.ok (List.replicate 8164 0)), w)) ∧
      (∃ detail, kms.wrapper.wrap handle (List.replicate 8165 0) w =
        (.now (.error (.unavailable detail)), after)) ∧
      (∃ detail, kms.wrapper.unwrap handle short w = (.now (.error (.integrity detail)), w)) ∧
      kms.wrapper.unwrap ⟨.inProcess, "drafts"⟩ short w =
        (.now (.error (unknown ⟨.inProcess, "drafts"⟩)), w) := by
  intro handle master kms w after short
  have hfind : kms.find? handle = some master := rfl
  obtain ⟨hunwraps, -, hshort, hwraps⟩ := (calls_genuine handle kms w).1 master hfind
  have huri : (ofString handle.uri).length ≤ Cipher.maxLength := by decide
  have hlongest : (List.replicate 8164 (0 : UInt8)).length ≤ longestDek := by
    rw [List.length_replicate]
    decide
  have hlonger : ¬((List.replicate 8165 (0 : UInt8)).length ≤ longestDek ∧
      (ofString handle.uri).length ≤ Cipher.maxLength) := by
    rw [List.length_replicate]
    decide
  obtain ⟨box, wrapped, hbox, hbytes, hwrap⟩ := (hwraps _).1 ⟨hlongest, huri⟩
  have hgenuine : Genuine master handle wrapped (List.replicate 8164 0) :=
    ⟨⟨_, Entropy.length_peek ..⟩, box, hbox, hbytes⟩
  have hother : kms.find? ⟨.inProcess, "drafts"⟩ = none := by decide
  exact ⟨hfind, ⟨wrapped, hwrap, (hunwraps ..).mpr hgenuine⟩, (hwraps _).2 hlonger,
    hshort short (by decide), ((calls_genuine _ kms w).2 hother).1 short⟩

end Local
end PathSeal.Kms
