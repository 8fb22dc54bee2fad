import PathSeal.Key.Data
import PathSeal.Kms.Local
import PathSeal.Proofs.Cipher.Aead
import PathSeal.Proofs.Envelope.Layout

/-!
# PathSeal.Proofs.Kms.Local

A wrapped key unwraps if and only if it is a wrapping of that data key, under the
same master key and for the same handle, with some nonce
(`Local.unwrapWith_eq_ok_iff`). No other bytes pass as a wrapped key.

A handle that is registered is found, whatever else comes of a call
(`Local.wrap_ne_keyNotFound`, `Local.unwrap_ne_keyNotFound`).
-/

namespace PathSeal.Kms

open Bytes

/-- A response is taken for a wrapped key exactly if it is its bytes. -/
theorem wrappedOfResponse_eq_ok_iff (bs : Bytes) (w : Key.Wrapped) :
    wrappedOfResponse bs = .ok w ↔ w.bytes = bs := by
  rw [← Key.Wrapped.ofBytes_eq_ok_iff, wrappedOfResponse]
  split
  · next found hfound => rw [hfound, Except.ok.injEq, Except.ok.injEq]
  · next fault hfault =>
    rw [hfault]
    constructor <;> intro h <;> contradiction

/-- One that is not is taken for a service that did not work. -/
theorem exists_unavailable_of_wrappedOfResponse {bs : Bytes} {e : Error}
    (h : wrappedOfResponse bs = .error e) : ∃ detail, e = .unavailable detail := by
  rw [wrappedOfResponse] at h
  split at h
  · contradiction
  · exact ⟨_, (Except.error.inj h).symm⟩

/-- It is empty or too long. -/
theorem wrappedOfResponse_fails_iff (bs : Bytes) :
    (∃ e, wrappedOfResponse bs = .error e) ↔ bs = [] ∨ Key.maxWrappedLength < bs.length := by
  rw [← List.length_eq_zero_iff]
  cases h : wrappedOfResponse bs with
  | ok w =>
    have hbs := (wrappedOfResponse_eq_ok_iff bs w).mp h
    have hpos := w.length_pos
    have hle := w.length_le
    rw [hbs] at hpos hle
    simp only [reduceCtorEq, exists_false, false_iff]
    omega
  | error e =>
    simp only [Except.error.injEq, exists_eq', true_iff]
    by_contra hfits
    have hpos : 0 < bs.length := by omega
    have hle : bs.length ≤ Key.maxWrappedLength := by omega
    rw [(wrappedOfResponse_eq_ok_iff bs ⟨bs, hpos, hle⟩).mpr rfl] at h
    contradiction

namespace Local

variable (key : MasterKey) (handle : Key.Handle)

/-- What wrapping gives: nonce, ciphertext and tag of the data key. -/
theorem wrapWith_eq_ok_iff (nonce dek : Bytes) (w : Key.Wrapped) :
    wrapWith key handle nonce dek = .ok w ↔
      ∃ box, Cipher.encrypt .aes256Gcm key.val nonce dek (ofString handle.uri) = .ok box ∧
        w.bytes = nonce ++ (box.ciphertext ++ box.tag.val) := by
  unfold wrapWith
  split
  · next box hbox =>
    rw [wrappedOfResponse_eq_ok_iff, hbox, List.append_assoc]
    constructor
    · intro h
      exact ⟨box, rfl, h⟩
    · rintro ⟨found, hfound, h⟩
      rw [Except.ok.inj hfound]
      exact h
  · next fault hfault =>
    rw [hfault]
    constructor
    · intro h
      contradiction
    · rintro ⟨found, hfound, -⟩
      contradiction

/-- Bytes that are long enough are a nonce, a ciphertext and a tag. -/
theorem exists_parts {blob : Bytes} (h : Cipher.nonceLength + Cipher.tagLength ≤ blob.length) :
    ∃ (nonce : Cipher.Nonce) (ciphertext : Bytes) (tag : Cipher.Tag),
      blob = nonce.val ++ (ciphertext ++ tag.val) := by
  let rest := blob.drop Cipher.nonceLength
  let split := rest.length - Cipher.tagLength
  have hrest : rest.length = blob.length - Cipher.nonceLength := List.length_drop
  have hnonce : (blob.take Cipher.nonceLength).length = Cipher.nonceLength := by
    rw [List.length_take]
    omega
  have htag : (rest.drop split).length = Cipher.tagLength := by
    rw [List.length_drop]
    omega
  refine ⟨⟨blob.take Cipher.nonceLength, hnonce⟩, rest.take split, ⟨rest.drop split, htag⟩, ?_⟩
  simp only [rest, List.take_append_drop]

/-- Unwrapping takes nonce, ciphertext and tag apart and decrypts. -/
theorem unwrapWith_append (nonce : Cipher.Nonce) (ciphertext : Bytes) (tag : Cipher.Tag) :
    unwrapWith key handle (nonce.val ++ (ciphertext ++ tag.val)) =
      (Cipher.decrypt .aes256Gcm key.val nonce.val ciphertext tag.val
        (ofString handle.uri)).mapError fun _ =>
          .integrity s!"wrapped key does not verify under {handle}" := by
  have hnonce : nonce.val.length = Cipher.nonceLength := nonce.property
  have htag : tag.val.length = Cipher.tagLength := tag.property
  have hlong : ¬(nonce.val ++ (ciphertext ++ tag.val)).length <
      Cipher.nonceLength + Cipher.tagLength := by
    rw [List.length_append, List.length_append, hnonce, htag]
    omega
  have hsplit : (ciphertext ++ tag.val).length - Cipher.tagLength = ciphertext.length := by
    rw [List.length_append, htag, Nat.add_sub_cancel]
  rw [unwrapWith, if_neg hlong]
  simp only [take_append_of_length hnonce, drop_append_of_length hnonce, hsplit,
    take_append_of_length rfl, drop_append_of_length rfl]
  cases Cipher.decrypt .aes256Gcm key.val nonce.val ciphertext tag.val (ofString handle.uri) with
  | ok dek => rfl
  | error fault => rfl

/-- Bytes that are too short for a nonce and a tag do not unwrap. -/
theorem unwrapWith_of_short {blob : Bytes}
    (h : blob.length < Cipher.nonceLength + Cipher.tagLength) :
    unwrapWith key handle blob =
      .error (.integrity s!"wrapped key of {blob.length} bytes is too short") := by
  rw [unwrapWith, if_pos h]

/-- A wrapped key unwraps to a data key exactly if it is a wrapping of it. -/
theorem unwrapWith_eq_ok_iff (w : Key.Wrapped) (dek : Bytes) :
    unwrapWith key handle w.bytes = .ok dek ↔
      ∃ nonce : Cipher.Nonce, wrapWith key handle nonce.val dek = .ok w := by
  constructor
  · intro h
    by_cases hshort : w.bytes.length < Cipher.nonceLength + Cipher.tagLength
    · rw [unwrapWith_of_short key handle hshort] at h
      contradiction
    · obtain ⟨nonce, ciphertext, tag, hparts⟩ := exists_parts (Nat.le_of_not_lt hshort)
      rw [hparts, unwrapWith_append] at h
      cases hfound : Cipher.decrypt .aes256Gcm key.val nonce.val ciphertext tag.val
          (ofString handle.uri) with
      | error fault =>
        rw [hfound] at h
        contradiction
      | ok found =>
        rw [hfound] at h
        have hdek : found = dek := Except.ok.inj h
        subst hdek
        have hlen := Cipher.length_of_decrypt .aes256Gcm key nonce hfound
        have hbound : found.length ≤ Cipher.maxLength := by
          have hle : w.bytes.length ≤ 8192 := w.length_le
          have hmax : Cipher.maxLength = 68719476736 := rfl
          rw [hparts, List.length_append, List.length_append] at hle
          omega
        have henc := (Cipher.decrypt_eq_ok_iff_encrypt .aes256Gcm key nonce ciphertext _ found tag
          hbound).mp hfound
        exact ⟨nonce, (wrapWith_eq_ok_iff key handle nonce.val found w).mpr ⟨_, henc, hparts⟩⟩
  · rintro ⟨nonce, h⟩
    obtain ⟨box, hbox, hparts⟩ := (wrapWith_eq_ok_iff key handle nonce.val dek w).mp h
    have hbound := ((Cipher.encrypt_eq_ok_iff .aes256Gcm key nonce dek _ box).mp hbox).1.1
    have hdec := (Cipher.decrypt_eq_ok_iff_encrypt .aes256Gcm key nonce box.ciphertext _ dek box.tag
      hbound).mpr hbox
    rw [hparts, unwrapWith_append, hdec]
    rfl

/-- A wrapped data key has the data key's length and that of a nonce and a tag. -/
theorem length_of_wrapWith {nonce : Cipher.Nonce} {dek : Bytes} {w : Key.Wrapped}
    (h : wrapWith key handle nonce.val dek = .ok w) :
    w.length = dek.length + Cipher.nonceLength + Cipher.tagLength := by
  obtain ⟨box, hbox, hparts⟩ := (wrapWith_eq_ok_iff key handle nonce.val dek w).mp h
  obtain ⟨-, hlock⟩ := (Cipher.encrypt_eq_ok_iff .aes256Gcm key nonce dek _ box).mp hbox
  have hcipher : box.ciphertext.length = dek.length := by
    rw [← hlock, Cipher.Algorithm.length_ciphertext_lock]
  have hnonce : nonce.val.length = Cipher.nonceLength := nonce.property
  have htag : box.tag.val.length = Cipher.tagLength := box.tag.property
  rw [Key.Wrapped.length, hparts, List.length_append, List.length_append, hnonce, htag, hcipher]
  omega

/-- The longest data key whose nonce, ciphertext and tag fit into a wrapped key. -/
def longestDek : Nat := Key.maxWrappedLength - (Cipher.nonceLength + Cipher.tagLength)

/-- A data key can be wrapped exactly if it fits and the handle is within the cipher's limit. -/
theorem exists_wrapWith_iff (nonce : Cipher.Nonce) (dek : Bytes) :
    (∃ w, wrapWith key handle nonce.val dek = .ok w) ↔
      dek.length ≤ longestDek ∧ (ofString handle.uri).length ≤ Cipher.maxLength := by
  have hsum : longestDek + Cipher.nonceLength + Cipher.tagLength = Key.maxWrappedLength := rfl
  constructor
  · rintro ⟨w, h⟩
    obtain ⟨box, hbox, -⟩ := (wrapWith_eq_ok_iff key handle nonce.val dek w).mp h
    have hlen := length_of_wrapWith key handle h
    have hle : w.length ≤ Key.maxWrappedLength := w.length_le
    exact ⟨by omega, ((Cipher.encrypt_eq_ok_iff .aes256Gcm key nonce dek _ box).mp hbox).1.2⟩
  · rintro ⟨hdek, huri⟩
    have hmax : longestDek ≤ Cipher.maxLength := by decide
    have hbox := (Cipher.encrypt_eq_ok_iff .aes256Gcm key nonce dek (ofString handle.uri) _).mpr
      ⟨⟨Nat.le_trans hdek hmax, huri⟩, rfl⟩
    let box := Cipher.Algorithm.aes256Gcm.lock key.val nonce.val dek (ofString handle.uri)
    have hnonce : nonce.val.length = Cipher.nonceLength := nonce.property
    have htag : box.tag.val.length = Cipher.tagLength := box.tag.property
    have hcipher : box.ciphertext.length = dek.length := Cipher.Algorithm.length_ciphertext_lock ..
    have hlen : (nonce.val ++ (box.ciphertext ++ box.tag.val)).length =
        dek.length + Cipher.nonceLength + Cipher.tagLength := by
      rw [List.length_append, List.length_append, hnonce, htag, hcipher]
      omega
    have hpos : 0 < (nonce.val ++ (box.ciphertext ++ box.tag.val)).length := by
      rw [hlen]
      exact Nat.add_pos_right _ (by decide)
    have hle : (nonce.val ++ (box.ciphertext ++ box.tag.val)).length ≤ Key.maxWrappedLength := by
      omega
    exact ⟨⟨_, hpos, hle⟩, (wrapWith_eq_ok_iff ..).mpr ⟨box, hbox, rfl⟩⟩

/-- A data key of 32 bytes can always be wrapped, for a handle within the limit of the cipher. -/
theorem exists_wrapWith (nonce : Cipher.Nonce) (dek : Key.Data)
    (huri : (ofString handle.uri).length ≤ Cipher.maxLength) :
    ∃ w, wrapWith key handle nonce.val dek.val = .ok w := by
  have hdek : dek.val.length ≤ longestDek := by
    rw [dek.property]
    decide
  exact (exists_wrapWith_iff key handle nonce dek.val).mpr ⟨hdek, huri⟩

/-! ## Calls -/

variable (kms : Local) (w : World κ)

/-- Wrapping for a registered handle draws a nonce and answers at once. -/
theorem wrap_of_find? {master : MasterKey} (h : kms.find? handle = some master) (dek : Bytes) :
    kms.wrapper.wrap handle dek w =
      (.now (wrapWith master handle (w.entropy.peek Cipher.nonceLength) dek),
        { w with entropy := w.entropy.skip Cipher.nonceLength }) := by
  simp only [wrapper, h]
  rfl

/-- Wrapping for any other handle draws nothing. -/
theorem wrap_of_not_found (h : kms.find? handle = none) (dek : Bytes) :
    kms.wrapper.wrap handle dek w = (.now (.error (unknown handle)), w) := by
  simp only [wrapper, h]
  rfl

/-- Unwrapping for a registered handle draws nothing and answers at once. -/
theorem unwrap_of_find? {master : MasterKey} (h : kms.find? handle = some master)
    (wrapped : Key.Wrapped) :
    kms.wrapper.unwrap handle wrapped w =
      (.now (unwrapWith master handle wrapped.bytes), w) := by
  simp only [wrapper, h]
  rfl

/-- Unwrapping for any other handle draws nothing either. -/
theorem unwrap_of_not_found (h : kms.find? handle = none) (wrapped : Key.Wrapped) :
    kms.wrapper.unwrap handle wrapped w = (.now (.error (unknown handle)), w) := by
  simp only [wrapper, h]
  rfl

/-- A wrapped key comes exactly of a registered handle, and at once. -/
theorem wrap_eq_ok_iff (dek : Bytes) (wrapped : Key.Wrapped) :
    (kms.wrapper.wrap handle dek w).1.value = .ok wrapped ↔
      ∃ master, kms.find? handle = some master ∧
        wrapWith master handle (w.entropy.peek Cipher.nonceLength) dek = .ok wrapped := by
  cases h : kms.find? handle with
  | none =>
    rw [wrap_of_not_found handle kms w h]
    simp [Timed.now]
  | some master =>
    rw [wrap_of_find? handle kms w h]
    simp [Timed.now]

/-- A data key comes exactly of a registered handle, and at once. -/
theorem unwrap_eq_ok_iff (wrapped : Key.Wrapped) (dek : Bytes) :
    (kms.wrapper.unwrap handle wrapped w).1.value = .ok dek ↔
      ∃ master, kms.find? handle = some master ∧
        unwrapWith master handle wrapped.bytes = .ok dek := by
  cases h : kms.find? handle with
  | none =>
    rw [unwrap_of_not_found handle kms w h]
    simp [Timed.now]
  | some master =>
    rw [unwrap_of_find? handle kms w h]
    simp [Timed.now]

theorem millis_wrap (dek : Bytes) : (kms.wrapper.wrap handle dek w).1.millis = 0 := by
  cases h : kms.find? handle with
  | none => rw [wrap_of_not_found handle kms w h, Timed.now]
  | some master => rw [wrap_of_find? handle kms w h, Timed.now]

theorem millis_unwrap (wrapped : Key.Wrapped) :
    (kms.wrapper.unwrap handle wrapped w).1.millis = 0 := by
  cases h : kms.find? handle with
  | none => rw [unwrap_of_not_found handle kms w h, Timed.now]
  | some master => rw [unwrap_of_find? handle kms w h, Timed.now]

/-! ## Faults -/

/-- Wrapping fails by the cipher only. -/
theorem exists_unavailable_of_wrapWith {nonce dek : Bytes} {e : Error}
    (h : wrapWith key handle nonce dek = .error e) : ∃ detail, e = .unavailable detail := by
  unfold wrapWith at h
  split at h
  · exact exists_unavailable_of_wrappedOfResponse h
  · exact ⟨_, (Except.error.inj h).symm⟩

/-- Unwrapping fails for what it is given only. -/
theorem exists_integrity_of_unwrapWith {blob : Bytes} {e : Error}
    (h : unwrapWith key handle blob = .error e) : ∃ detail, e = .integrity detail := by
  rw [unwrapWith] at h
  split at h
  · exact ⟨_, (Except.error.inj h).symm⟩
  · dsimp only at h
    split at h
    · contradiction
    · exact ⟨_, (Except.error.inj h).symm⟩

section

variable (hcontains : kms.contains handle) (detail : String)

include hcontains

theorem wrap_ne_keyNotFound (dek : Bytes) :
    (kms.wrapper.wrap handle dek w).1.value ≠ .error (.keyNotFound detail) := by
  obtain ⟨master, hmaster⟩ := Option.isSome_iff_exists.mp hcontains
  rw [wrap_of_find? handle kms w hmaster]
  intro h
  obtain ⟨found, hfound⟩ := exists_unavailable_of_wrapWith master handle h
  contradiction

theorem unwrap_ne_keyNotFound (wrapped : Key.Wrapped) :
    (kms.wrapper.unwrap handle wrapped w).1.value ≠ .error (.keyNotFound detail) := by
  obtain ⟨master, hmaster⟩ := Option.isSome_iff_exists.mp hcontains
  rw [unwrap_of_find? handle kms w hmaster]
  intro h
  obtain ⟨found, hfound⟩ := exists_integrity_of_unwrapWith master handle h
  contradiction

end

/-! ## Registered keys -/

theorem lookup_filter_ne (keys : List (Key.Handle × MasterKey)) {handle other : Key.Handle}
    (h : other ≠ handle) : (keys.filter (·.1 ≠ handle)).lookup other = keys.lookup other := by
  induction keys with
  | nil => rfl
  | cons first keys ih =>
    by_cases hfirst : first.1 = handle
    · have hne : (other == first.1) = false := by rw [hfirst, beq_false_of_ne h]
      rw [List.filter_cons_of_neg (by simpa using hfirst), ih, List.lookup_cons, hne]
    · rw [List.filter_cons_of_pos (by simpa using hfirst), List.lookup_cons, List.lookup_cons, ih]

/-- A handle that is registered is found; all others are found as before. -/
theorem find?_register (other : Key.Handle) :
    (kms.register handle key).find? other =
      if other = handle then some key else kms.find? other := by
  rw [find?, register, List.lookup_cons]
  split
  · next h => rw [if_pos (by simpa using h)]
  · next h =>
    have hne : other ≠ handle := by simpa using h
    rw [if_neg hne, lookup_filter_ne kms.keys hne, find?]

/-- Registering a handle adds it to those that are registered. -/
theorem contains_register (other : Key.Handle) :
    (kms.register handle key).contains other ↔ other = handle ∨ kms.contains other := by
  rw [contains, contains, find?_register]
  by_cases h : other = handle
  · simp [h]
  · simp [h]

theorem contains_foldl_register (master : Key.Handle → MasterKey) (handles : List Key.Handle)
    (other : Key.Handle) :
    (handles.foldl (fun kms handle => kms.register handle (master handle)) kms).contains other ↔
      other ∈ handles ∨ kms.contains other := by
  induction handles generalizing kms with
  | nil => simp
  | cons first handles ih =>
    rw [List.foldl_cons, ih, contains_register, List.mem_cons, or_left_comm, or_assoc]

end Local
end PathSeal.Kms
