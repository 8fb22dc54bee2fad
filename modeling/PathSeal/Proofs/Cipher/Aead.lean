import PathSeal.Cipher.Aead

/-!
# PathSeal.Proofs.Cipher.Aead

Authenticated encryption and decryption undo each other exactly. Unlocking gives
a plaintext if and only if locking that plaintext gives the ciphertext and the
tag (`Algorithm.unlock_eq_some_iff`); so within the length limits decryption
accepts what encryption produces and nothing else (`decrypt_eq_ok_iff_encrypt`).

The two primitives differ in what the keystream depends on: in Galois/counter
mode on key and nonce, in the misuse-resistant mode on the tag as well. Both are
given to `Algorithm.unlock` unchanged, so other associated data leaves the
recovered plaintext as it was and only the tag can tell
(`Algorithm.unlock_lock_of_aad`).

The same holds of inputs of any lengths, where the first wrong length is what a
failure names (`decrypt_accepts_encrypt`).
-/

namespace PathSeal.Cipher

/-! ## Locking and unlocking -/

namespace Algorithm

variable (algorithm : Algorithm) (key nonce : Bytes)

@[simp] theorem length_ciphertext_lock (plaintext aad : Bytes) :
    (algorithm.lock key nonce plaintext aad).ciphertext.length = plaintext.length := by
  cases algorithm <;> simp [lock]

/-- A plaintext that unlocks is as long as its ciphertext. -/
theorem length_of_unlock {ciphertext tag aad plaintext : Bytes}
    (h : algorithm.unlock key nonce ciphertext tag aad = some plaintext) :
    plaintext.length = ciphertext.length := by
  cases algorithm with
  | aes256Gcm =>
    simp only [unlock] at h
    split at h
    · rw [← Option.some.inj h, Gcm.length_apply]
    · contradiction
  | aes256GcmSiv =>
    simp only [unlock] at h
    split at h
    · rw [← Option.some.inj h, GcmSiv.length_apply]
    · contradiction

/-- Under other associated data a locked plaintext comes back unchanged if that data happens to
have the same tag, and not at all otherwise. -/
theorem unlock_lock_of_aad (plaintext aad other : Bytes) :
    algorithm.unlock key nonce (algorithm.lock key nonce plaintext aad).ciphertext
        (algorithm.lock key nonce plaintext aad).tag.val other =
      if (algorithm.lock key nonce plaintext other).tag =
        (algorithm.lock key nonce plaintext aad).tag then some plaintext else none := by
  cases algorithm with
  | aes256Gcm =>
    -- The keystream does not depend on the associated data.
    have happly : Gcm.apply key nonce (Gcm.apply key nonce plaintext) = plaintext :=
      Gcm.apply_apply key nonce plaintext
    simp only [unlock, lock, happly, Subtype.ext_iff]
  | aes256GcmSiv =>
    -- The keystream is that of the tag which is checked, so it is the one that was used.
    have happly := GcmSiv.apply_apply key nonce (GcmSiv.tag key nonce plaintext aad) plaintext
    simp only [unlock, lock, happly, Subtype.ext_iff]

/-- What was locked unlocks. -/
theorem unlock_lock (plaintext aad : Bytes) :
    algorithm.unlock key nonce (algorithm.lock key nonce plaintext aad).ciphertext
      (algorithm.lock key nonce plaintext aad).tag.val aad = some plaintext := by
  rw [unlock_lock_of_aad, if_pos rfl]

/-- What unlocks was locked: ciphertext and tag are those of the plaintext. -/
theorem lock_of_unlock {ciphertext aad plaintext : Bytes} {tag : Tag}
    (h : algorithm.unlock key nonce ciphertext tag.val aad = some plaintext) :
    algorithm.lock key nonce plaintext aad = ⟨ciphertext, tag⟩ := by
  cases algorithm with
  | aes256Gcm =>
    simp only [unlock] at h
    split at h
    · next htag =>
      have hplain : Gcm.apply key nonce ciphertext = plaintext := Option.some.inj h
      have hcipher : Gcm.apply key nonce plaintext = ciphertext := by
        rw [← hplain, Gcm.apply_apply]
      simp only [lock, hcipher, Box.mk.injEq, true_and]
      exact Subtype.ext htag
    · contradiction
  | aes256GcmSiv =>
    simp only [unlock] at h
    split at h
    · next htag =>
      have hplain : GcmSiv.apply key nonce tag.val ciphertext = plaintext := Option.some.inj h
      rw [hplain] at htag
      have hcipher : GcmSiv.apply key nonce tag.val plaintext = ciphertext := by
        rw [← hplain, GcmSiv.apply_apply]
      simp only [lock, htag, hcipher]
    · contradiction

/-- Unlocking accepts exactly what locking produces. -/
theorem unlock_eq_some_iff (ciphertext aad plaintext : Bytes) (tag : Tag) :
    algorithm.unlock key nonce ciphertext tag.val aad = some plaintext ↔
      algorithm.lock key nonce plaintext aad = ⟨ciphertext, tag⟩ := by
  constructor
  · exact algorithm.lock_of_unlock key nonce
  · intro h
    have hu := algorithm.unlock_lock key nonce plaintext aad
    rw [h] at hu
    exact hu

/-- In Galois/counter mode a ciphertext has a single tag that unlocks it. -/
theorem unlock_gcm_of_tag_ne {plaintext aad : Bytes} {tag : Tag}
    (h : tag ≠ (aes256Gcm.lock key nonce plaintext aad).tag) :
    aes256Gcm.unlock key nonce (aes256Gcm.lock key nonce plaintext aad).ciphertext tag.val aad =
      none := by
  simp only [unlock]
  rw [if_neg]
  intro htag
  exact h (Subtype.ext htag.symm)

end Algorithm

/-! ## Encryption and decryption of sized inputs -/

variable (algorithm : Algorithm) (key : Sized keyLength) (nonce : Nonce)

theorem checkLengths_sized : checkLengths key.val nonce.val = .ok () := by
  simp [checkLengths, key.property, nonce.property]

/-- With a key and a nonce of the right size only the length limits can stop encryption. -/
theorem encrypt_sized (plaintext aad : Bytes) :
    encrypt algorithm key.val nonce.val plaintext aad =
      if plaintext.length ≤ maxLength ∧ aad.length ≤ maxLength then
        .ok (algorithm.lock key.val nonce.val plaintext aad)
      else .error .primitive := by
  simp only [encrypt, checkLengths_sized]
  by_cases h : plaintext.length ≤ maxLength ∧ aad.length ≤ maxLength
  · rw [if_pos h]
    have hlimit : ¬(plaintext.length > maxLength ∨ aad.length > maxLength) := by omega
    simp [hlimit, bind, Except.bind, pure, Except.pure]
  · rw [if_neg h]
    have hlimit : plaintext.length > maxLength ∨ aad.length > maxLength := by omega
    simp [hlimit, bind, Except.bind, throw, throwThe, MonadExceptOf.throw]

/-- Encryption gives a box exactly within the length limits, and then the locked one. -/
theorem encrypt_eq_ok_iff (plaintext aad : Bytes) (box : Box) :
    encrypt algorithm key.val nonce.val plaintext aad = .ok box ↔
      (plaintext.length ≤ maxLength ∧ aad.length ≤ maxLength) ∧
        algorithm.lock key.val nonce.val plaintext aad = box := by
  rw [encrypt_sized]
  split
  · next h => simp [h]
  · next h => simp [h]

/-- With key, nonce and tag of the right size decryption can only fail to authenticate. -/
theorem decrypt_sized (ciphertext aad : Bytes) (tag : Tag) :
    decrypt algorithm key.val nonce.val ciphertext tag.val aad =
      if ciphertext.length ≤ maxLength + tagLength ∧ aad.length ≤ maxLength then
        match algorithm.unlock key.val nonce.val ciphertext tag.val aad with
        | some plaintext => .ok plaintext
        | none => .error .authentication
      else .error .authentication := by
  have htag : ¬tag.val.length ≠ tagLength := by simp [tag.property]
  simp only [decrypt, checkLengths_sized, if_neg htag]
  by_cases h : ciphertext.length ≤ maxLength + tagLength ∧ aad.length ≤ maxLength
  · rw [if_pos h]
    have hlimit : ¬(ciphertext.length > maxLength + tagLength ∨ aad.length > maxLength) := by omega
    simp only [hlimit, if_false]
    rfl
  · rw [if_neg h]
    have hlimit : ciphertext.length > maxLength + tagLength ∨ aad.length > maxLength := by omega
    simp [hlimit, bind, Except.bind, throw, throwThe, MonadExceptOf.throw]

/-- What decrypts is as long as its ciphertext. -/
theorem length_of_decrypt {ciphertext aad plaintext : Bytes} {tag : Tag}
    (h : decrypt algorithm key.val nonce.val ciphertext tag.val aad = .ok plaintext) :
    plaintext.length = ciphertext.length := by
  rw [decrypt_sized] at h
  split at h
  · split at h
    · next found hfound =>
      rw [← Except.ok.inj h]
      exact algorithm.length_of_unlock key.val nonce.val hfound
    · contradiction
  · contradiction

/-- Decryption accepts exactly what encryption produces. The limit on the plaintext is that of
encryption; decryption alone would take one tag's length more. -/
theorem decrypt_eq_ok_iff_encrypt (ciphertext aad plaintext : Bytes) (tag : Tag)
    (hlen : plaintext.length ≤ maxLength) :
    decrypt algorithm key.val nonce.val ciphertext tag.val aad = .ok plaintext ↔
      encrypt algorithm key.val nonce.val plaintext aad = .ok ⟨ciphertext, tag⟩ := by
  rw [decrypt_sized, encrypt_eq_ok_iff]
  constructor
  · intro h
    split at h
    · next hlimit =>
      split at h
      · next found hfound =>
        have heq : found = plaintext := Except.ok.inj h
        subst heq
        exact ⟨⟨hlen, hlimit.2⟩, algorithm.lock_of_unlock key.val nonce.val hfound⟩
      · contradiction
    · contradiction
  · rintro ⟨⟨-, haad⟩, hlock⟩
    have hct : ciphertext.length = plaintext.length := by
      have hl := algorithm.length_ciphertext_lock key.val nonce.val plaintext aad
      rw [hlock] at hl
      exact hl
    have hun := (algorithm.unlock_eq_some_iff key.val nonce.val ciphertext aad plaintext tag).mpr
      hlock
    rw [if_pos ⟨by omega, haad⟩, hun]

/-- What was locked under some associated data decrypts under other data only if the tags agree. -/
theorem decrypt_lock_of_aad (plaintext aad other : Bytes) (hlen : plaintext.length ≤ maxLength) :
    decrypt algorithm key.val nonce.val
        (algorithm.lock key.val nonce.val plaintext aad).ciphertext
        (algorithm.lock key.val nonce.val plaintext aad).tag.val other =
      if other.length ≤ maxLength ∧ (algorithm.lock key.val nonce.val plaintext other).tag =
          (algorithm.lock key.val nonce.val plaintext aad).tag then .ok plaintext
      else .error .authentication := by
  have hcipher : (algorithm.lock key.val nonce.val plaintext aad).ciphertext.length ≤
      maxLength + tagLength := by
    rw [Algorithm.length_ciphertext_lock]
    omega
  rw [decrypt_sized, Algorithm.unlock_lock_of_aad]
  by_cases hother : other.length ≤ maxLength
  · rw [if_pos ⟨hcipher, hother⟩]
    by_cases htag : (algorithm.lock key.val nonce.val plaintext other).tag =
        (algorithm.lock key.val nonce.val plaintext aad).tag
    · rw [if_pos htag, if_pos ⟨hother, htag⟩]
    · rw [if_neg htag, if_neg (fun h => htag h.2)]
  · rw [if_neg (fun h => hother h.2), if_neg (fun h => hother h.1)]

/-- In Galois/counter mode any other tag fails to authenticate. -/
theorem decrypt_gcm_of_tag_ne (plaintext aad : Bytes) {tag : Tag}
    (h : tag ≠ (Algorithm.aes256Gcm.lock key.val nonce.val plaintext aad).tag) :
    decrypt .aes256Gcm key.val nonce.val
      (Algorithm.aes256Gcm.lock key.val nonce.val plaintext aad).ciphertext tag.val aad =
      .error .authentication := by
  rw [decrypt_sized, Algorithm.unlock_gcm_of_tag_ne key.val nonce.val h]
  split <;> rfl

/-! ## Encryption and decryption of any inputs -/

section

variable (algorithm : Algorithm) {key nonce : Bytes}

/-- The check of key and nonce names the first of them that has a wrong length. -/
theorem checkLengths_eq_error_iff (fault : CipherError) :
    checkLengths key nonce = .error fault ↔
      (key.length ≠ keyLength ∧ fault = .keyLength key.length) ∨
        (key.length = keyLength ∧ nonce.length ≠ nonceLength ∧
          fault = .nonceLength nonce.length) := by
  unfold checkLengths
  by_cases hkey : key.length = keyLength
  · by_cases hnonce : nonce.length = nonceLength
    · simp [hkey, hnonce]
    · simp [hkey, hnonce, eq_comm]
  · simp [hkey, eq_comm]

/-- A key and a nonce that pass the check are of the right sizes. -/
theorem exists_sized_of_checkLengths {passed : Unit} (h : checkLengths key nonce = .ok passed) :
    ∃ (sizedKey : Sized keyLength) (sizedNonce : Nonce),
      sizedKey.val = key ∧ sizedNonce.val = nonce := by
  unfold checkLengths at h
  split at h
  · contradiction
  · next hkey =>
    split at h
    · contradiction
    · next hnonce =>
      exact ⟨⟨key, Decidable.not_not.mp hkey⟩, ⟨nonce, Decidable.not_not.mp hnonce⟩, rfl, rfl⟩

theorem encrypt_of_checkLengths {fault : CipherError} (h : checkLengths key nonce = .error fault)
    (plaintext aad : Bytes) : encrypt algorithm key nonce plaintext aad = .error fault := by
  rw [encrypt, h]
  rfl

theorem decrypt_of_checkLengths {fault : CipherError} (h : checkLengths key nonce = .error fault)
    (ciphertext tag aad : Bytes) :
    decrypt algorithm key nonce ciphertext tag aad = .error fault := by
  rw [decrypt, h]
  rfl

theorem decrypt_of_tagLength (key : Sized keyLength) (nonce : Nonce) {tag : Bytes}
    (h : tag.length ≠ tagLength) (ciphertext aad : Bytes) :
    decrypt algorithm key.val nonce.val ciphertext tag aad = .error (.tagLength tag.length) := by
  simp only [decrypt, checkLengths_sized, if_pos h]
  rfl

variable (ciphertext tag plaintext aad : Bytes)

/-- With inputs of any lengths decryption accepts exactly what encryption produces. -/
theorem decrypt_eq_ok_iff_exists_box (hlen : plaintext.length ≤ maxLength) :
    decrypt algorithm key nonce ciphertext tag aad = .ok plaintext ↔
      ∃ box, encrypt algorithm key nonce plaintext aad = .ok box ∧
        box.ciphertext = ciphertext ∧ box.tag.val = tag := by
  cases hcheck : checkLengths key nonce with
  | error fault =>
    rw [encrypt_of_checkLengths algorithm hcheck, decrypt_of_checkLengths algorithm hcheck]
    simp
  | ok _ =>
    obtain ⟨key, nonce, rfl, rfl⟩ := exists_sized_of_checkLengths hcheck
    by_cases htag : tag.length = tagLength
    · rw [decrypt_eq_ok_iff_encrypt algorithm key nonce ciphertext aad plaintext ⟨tag, htag⟩ hlen]
      constructor
      · intro h
        exact ⟨_, h, rfl, rfl⟩
      · rintro ⟨box, h, rfl, rfl⟩
        exact h
    · rw [decrypt_of_tagLength algorithm key nonce htag]
      constructor
      · intro h
        contradiction
      · rintro ⟨box, -, -, rfl⟩
        exact absurd box.tag.property htag

/-- What decrypts is as long as its ciphertext, for inputs of any lengths. -/
theorem length_of_decrypt_eq_ok
    (h : decrypt algorithm key nonce ciphertext tag aad = .ok plaintext) :
    ciphertext.length = plaintext.length := by
  cases hcheck : checkLengths key nonce with
  | error fault =>
    rw [decrypt_of_checkLengths algorithm hcheck] at h
    contradiction
  | ok _ =>
    obtain ⟨key, nonce, rfl, rfl⟩ := exists_sized_of_checkLengths hcheck
    by_cases htag : tag.length = tagLength
    · have hlength := @length_of_decrypt algorithm key nonce ciphertext aad plaintext ⟨tag, htag⟩ h
      exact hlength.symm
    · rw [decrypt_of_tagLength algorithm key nonce htag] at h
      contradiction

/-- A decryption that fails names the first of key, nonce and tag that has a wrong length, and the
tag's value only if all have theirs. -/
theorem fault_of_decrypt {fault : CipherError}
    (h : decrypt algorithm key nonce ciphertext tag aad = .error fault) :
    fault =
      if key.length ≠ keyLength then .keyLength key.length
      else if nonce.length ≠ nonceLength then .nonceLength nonce.length
      else if tag.length ≠ tagLength then .tagLength tag.length
      else .authentication := by
  cases hcheck : checkLengths key nonce with
  | error found =>
    rw [decrypt_of_checkLengths algorithm hcheck] at h
    obtain rfl := Except.error.inj h
    rcases (checkLengths_eq_error_iff found).mp hcheck with ⟨hkey, rfl⟩ | ⟨hkey, hnonce, rfl⟩
    · rw [if_pos hkey]
    · rw [if_neg (Decidable.not_not.mpr hkey), if_pos hnonce]
  | ok _ =>
    obtain ⟨key, nonce, rfl, rfl⟩ := exists_sized_of_checkLengths hcheck
    rw [if_neg (Decidable.not_not.mpr key.property), if_neg (Decidable.not_not.mpr nonce.property)]
    by_cases htag : tag.length = tagLength
    · rw [if_neg (Decidable.not_not.mpr htag)]
      rw [decrypt_sized algorithm key nonce ciphertext aad ⟨tag, htag⟩] at h
      split at h
      · split at h
        · contradiction
        · exact (Except.error.inj h).symm
      · exact (Except.error.inj h).symm
    · rw [if_pos htag]
      rw [decrypt_of_tagLength algorithm key nonce htag] at h
      exact (Except.error.inj h).symm

/-- Within the limits of the primitives encryption fails exactly if the check does. -/
theorem encrypt_eq_error_iff (hlen : plaintext.length ≤ maxLength) (haad : aad.length ≤ maxLength)
    (fault : CipherError) :
    encrypt algorithm key nonce plaintext aad = .error fault ↔
      checkLengths key nonce = .error fault := by
  cases hcheck : checkLengths key nonce with
  | error found =>
    rw [encrypt_of_checkLengths algorithm hcheck, Except.error.injEq, Except.error.injEq]
  | ok _ =>
    obtain ⟨key, nonce, rfl, rfl⟩ := exists_sized_of_checkLengths hcheck
    rw [encrypt_sized, if_pos ⟨hlen, haad⟩]
    simp

end

/-- **Decryption accepts exactly what encryption produces.** With inputs of any lengths it gives a
plaintext if and only if encrypting that plaintext gives the ciphertext and the tag; the ciphertext
is then as long as the plaintext. A decryption that fails names the first of key, nonce and tag that
has a wrong length, and the tag's value only if all have theirs. Within the limits of the primitives
encryption fails exactly for a key or else a nonce of a wrong length. -/
theorem decrypt_accepts_encrypt (algorithm : Algorithm)
    (key nonce ciphertext tag plaintext aad : Bytes) (hlen : plaintext.length ≤ maxLength) :
    (decrypt algorithm key nonce ciphertext tag aad = .ok plaintext ↔
      ∃ box, encrypt algorithm key nonce plaintext aad = .ok box ∧
        box.ciphertext = ciphertext ∧ box.tag.val = tag) ∧
    (decrypt algorithm key nonce ciphertext tag aad = .ok plaintext →
      ciphertext.length = plaintext.length) ∧
    (∀ fault, decrypt algorithm key nonce ciphertext tag aad = .error fault →
      fault =
        if key.length ≠ keyLength then .keyLength key.length
        else if nonce.length ≠ nonceLength then .nonceLength nonce.length
        else if tag.length ≠ tagLength then .tagLength tag.length
        else .authentication) ∧
    (aad.length ≤ maxLength → ∀ fault,
      encrypt algorithm key nonce plaintext aad = .error fault ↔
        (key.length ≠ keyLength ∧ fault = .keyLength key.length) ∨
          (key.length = keyLength ∧ nonce.length ≠ nonceLength ∧
            fault = .nonceLength nonce.length)) := by
  refine ⟨?_, ?_, ?_, ?_⟩
  · exact decrypt_eq_ok_iff_exists_box algorithm ciphertext tag plaintext aad hlen
  · exact length_of_decrypt_eq_ok algorithm ciphertext tag plaintext aad
  · intro fault
    exact fault_of_decrypt algorithm ciphertext tag aad
  · intro haad fault
    rw [encrypt_eq_error_iff algorithm plaintext aad hlen haad, checkLengths_eq_error_iff]

/-- Three blocks, the last one a partial one, with the misuse-resistant algorithm. -/
theorem decrypt_accepts_encrypt_three_blocks :
    let key := List.replicate 32 7
    let nonce := List.replicate 12 1
    let plaintext := List.replicate 40 255
    let aad := Bytes.ofString "gs://bucket/run"
    ∃ box, encrypt .aes256GcmSiv key nonce plaintext aad = .ok box ∧
      plaintext.length ≤ maxLength ∧ aad.length ≤ maxLength ∧
      decrypt .aes256GcmSiv key nonce box.ciphertext box.tag.val aad = .ok plaintext ∧
      box.ciphertext.length = plaintext.length ∧
      ∀ fault, encrypt .aes256GcmSiv key nonce plaintext aad ≠ .error fault := by
  intro key nonce plaintext aad
  have hlen : plaintext.length ≤ maxLength := by decide
  have haad : aad.length ≤ maxLength := by decide
  obtain ⟨box, hbox⟩ : ∃ box, encrypt .aes256GcmSiv key nonce plaintext aad = .ok box := by
    exact ⟨_, encrypt_sized .aes256GcmSiv ⟨key, by decide⟩ ⟨nonce, by decide⟩ plaintext aad⟩
  obtain ⟨haccepts, hlength, -, hfails⟩ := decrypt_accepts_encrypt .aes256GcmSiv key nonce
    box.ciphertext box.tag.val plaintext aad hlen
  have hok := haccepts.mpr ⟨box, hbox, rfl, rfl⟩
  refine ⟨box, hbox, hlen, haad, hok, hlength hok, ?_⟩
  intro fault hfault
  rcases (hfails haad fault).mp hfault with ⟨hkey, -⟩ | ⟨-, hnonce, -⟩
  · exact hkey rfl
  · exact hnonce rfl

end PathSeal.Cipher
