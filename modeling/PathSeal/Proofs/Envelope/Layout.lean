import Mathlib.Data.Nat.PSub
import PathSeal.Envelope.Layout
import PathSeal.Proofs.Bytes

/-!
# PathSeal.Proofs.Envelope.Layout

The layout reads back what was written and nothing else: `decode` gives an
envelope if and only if the bytes are its stored form (`decode_eq_ok_iff`).

The proof goes field by field. Sizes are part of the types of the fields, so the
only number that has to be recovered is the length of the wrapped key, and its
bound is far below what the prefix can hold.

Which bytes these are is a matter of lengths alone (`HasLayout`). However long a
wrapped key the first bytes declare, no field is read beyond the end: a cursor that
must not pass it comes to the same envelope or fault (`decodeWithin_eq`).
-/

namespace PathSeal

open Bytes

namespace Key.Wrapped

/-- Bytes become a wrapped key exactly if they are its bytes. -/
theorem ofBytes_eq_ok_iff (bs : Bytes) (w : Wrapped) : ofBytes bs = .ok w ↔ w.bytes = bs := by
  constructor
  · intro h
    unfold ofBytes at h
    split at h
    · contradiction
    · split at h
      · rw [← Except.ok.inj h]
      · contradiction
  · intro h
    subst h
    have hpos : ¬w.bytes.length = 0 := Nat.ne_of_gt w.length_pos
    rw [ofBytes, dif_neg hpos, dif_pos w.length_le]

/-- Bytes become a wrapped key exactly if their number is within the bounds. -/
theorem exists_ofBytes_iff (bs : Bytes) :
    (∃ w, ofBytes bs = .ok w) ↔ 0 < bs.length ∧ bs.length ≤ maxWrappedLength := by
  constructor
  · rintro ⟨w, hw⟩
    rw [← (ofBytes_eq_ok_iff bs w).mp hw]
    exact ⟨w.length_pos, w.length_le⟩
  · rintro ⟨hpos, hle⟩
    exact ⟨⟨bs, hpos, hle⟩, (ofBytes_eq_ok_iff bs _).mpr rfl⟩

end Key.Wrapped

namespace Envelope

/-! ## Writing -/

/-- The stored form with its parts nested to the right, as reading takes them off. -/
theorem encode_eq (e : Envelope) :
    encode e = ofNatBE lengthPrefix e.wrappedKey.length ++
      (e.wrappedKey.bytes ++ (e.nonce.val ++ (e.ciphertext ++ e.tag.val))) := by
  simp [encode]

/-- The stored form has the announced length. -/
theorem length_encode (e : Envelope) : (encode e).length = e.encodedLength := by
  have hnonce : e.nonce.val.length = Cipher.nonceLength := e.nonce.property
  have htag : e.tag.val.length = Cipher.tagLength := e.tag.property
  rw [encode_eq]
  simp only [List.length_append, length_ofNatBE, hnonce, htag, encodedLength, Key.Wrapped.length]
  omega

/-- The length of a wrapped key fits its prefix. -/
theorem toNatBE_lengthPrefix (w : Key.Wrapped) :
    toNatBE (ofNatBE lengthPrefix w.length) = w.length := by
  apply toNatBE_ofNatBE
  have hle : w.length ≤ 8192 := w.length_le
  have hpow : Nat.pow 256 lengthPrefix = 4294967296 := rfl
  omega

/-! ## Reading what was written -/

/-- The steps of reading, the first failing one first. -/
theorem decode_eq (bs : Bytes) :
    decode bs =
      if bs.length < lengthPrefix then .error (.truncatedPrefix bs.length)
      else if toNatBE (bs.take lengthPrefix) = 0 then .error .emptyWrappedKey
      else if (bs.drop lengthPrefix).length < toNatBE (bs.take lengthPrefix) then
        .error (.overrun (toNatBE (bs.take lengthPrefix)) (bs.drop lengthPrefix).length)
      else
        match Key.Wrapped.ofBytes
            ((bs.drop lengthPrefix).take (toNatBE (bs.take lengthPrefix))) with
        | .ok w => decodeTail w ((bs.drop lengthPrefix).drop (toNatBE (bs.take lengthPrefix)))
        | .error e => .error (.wrappedKey e) := by
  unfold decode
  split
  · rfl
  · dsimp only
    split
    · rfl
    · split
      · rfl
      · rfl

/-- Nonce, ciphertext and tag are read back. -/
theorem decodeTail_append (w : Key.Wrapped) (nonce : Cipher.Nonce) (ciphertext : Bytes)
    (tag : Cipher.Tag) :
    decodeTail w (nonce.val ++ (ciphertext ++ tag.val)) = .ok ⟨w, nonce, ciphertext, tag⟩ := by
  have hnonce : nonce.val.length = Cipher.nonceLength := nonce.property
  have htag : tag.val.length = Cipher.tagLength := tag.property
  have hbody : (nonce.val ++ (ciphertext ++ tag.val)).drop Cipher.nonceLength =
      ciphertext ++ tag.val := drop_append_of_length hnonce
  have hsplit : (ciphertext ++ tag.val).length - Cipher.tagLength = ciphertext.length := by
    rw [List.length_append, htag, Nat.add_sub_cancel]
  have hlen : Cipher.nonceLength + Cipher.tagLength ≤
      (nonce.val ++ (ciphertext ++ tag.val)).length := by
    rw [List.length_append, List.length_append, hnonce, htag]
    omega
  rw [decodeTail, dif_pos hlen]
  simp only [hbody, hsplit, take_append_of_length rfl, drop_append_of_length rfl,
    take_append_of_length hnonce]

/-- The stored form of an envelope is read as that envelope. -/
theorem decode_encode (e : Envelope) : decode (encode e) = .ok e := by
  have hprefix : (ofNatBE lengthPrefix e.wrappedKey.length).length = lengthPrefix :=
    length_ofNatBE ..
  have hpos : ¬e.wrappedKey.length = 0 := Nat.ne_of_gt e.wrappedKey.length_pos
  have hwrapped := (Key.Wrapped.ofBytes_eq_ok_iff e.wrappedKey.bytes e.wrappedKey).mpr rfl
  have hlong : ¬(encode e).length < lengthPrefix := by
    rw [length_encode, encodedLength]
    omega
  have hfits : ¬(e.wrappedKey.bytes ++ (e.nonce.val ++ (e.ciphertext ++ e.tag.val))).length <
      e.wrappedKey.length := by
    rw [List.length_append, Key.Wrapped.length]
    omega
  have htake : (e.wrappedKey.bytes ++ (e.nonce.val ++ (e.ciphertext ++ e.tag.val))).take
      e.wrappedKey.length = e.wrappedKey.bytes := take_append_of_length rfl
  have hdrop : (e.wrappedKey.bytes ++ (e.nonce.val ++ (e.ciphertext ++ e.tag.val))).drop
      e.wrappedKey.length = e.nonce.val ++ (e.ciphertext ++ e.tag.val) := drop_append_of_length rfl
  rw [decode_eq, if_neg hlong, encode_eq, take_append_of_length hprefix,
    drop_append_of_length hprefix, toNatBE_lengthPrefix, if_neg hpos, if_neg hfits, htake, hdrop,
    hwrapped]
  exact decodeTail_append _ _ _ _

/-! ## Only what was written is read -/

/-- A tail that is read is the nonce, ciphertext and tag of the envelope, which keeps its wrapped
key. -/
theorem append_of_decodeTail {w : Key.Wrapped} {rest : Bytes} {e : Envelope}
    (h : decodeTail w rest = .ok e) :
    e.wrappedKey = w ∧ rest = e.nonce.val ++ (e.ciphertext ++ e.tag.val) := by
  unfold decodeTail at h
  split at h
  · have he := Except.ok.inj h
    subst he
    refine ⟨rfl, ?_⟩
    simp only [List.take_append_drop]
  · contradiction

/-- Bytes that are read as an envelope are its stored form. -/
theorem encode_of_decode {bs : Bytes} {e : Envelope} (h : decode bs = .ok e) : encode e = bs := by
  rw [decode_eq] at h
  split at h
  · contradiction
  · split at h
    · contradiction
    · split at h
      · contradiction
      · split at h
        · next hlong _ hfits w hw =>
          obtain ⟨hkey, hrest⟩ := append_of_decodeTail h
          have hbytes := (Key.Wrapped.ofBytes_eq_ok_iff _ _).mp hw
          have hlength : w.length = toNatBE (bs.take lengthPrefix) := by
            rw [Key.Wrapped.length, hbytes, List.length_take]
            omega
          have hfull : (bs.take lengthPrefix).length = lengthPrefix := by
            rw [List.length_take]
            omega
          -- The prefix is rebuilt from the length, the rest from its two parts.
          have hprefix : ofNatBE lengthPrefix w.length = bs.take lengthPrefix := by
            have hback := ofNatBE_toNatBE (bs.take lengthPrefix)
            rw [hfull] at hback
            rw [hlength, hback]
          rw [encode_eq, hkey, ← hrest, hbytes, List.take_append_drop, hprefix,
            List.take_append_drop]
        · contradiction

/-- Bytes are read as an envelope exactly if they are its stored form. -/
theorem decode_eq_ok_iff (bs : Bytes) (e : Envelope) : decode bs = .ok e ↔ encode e = bs := by
  constructor
  · exact encode_of_decode
  · intro h
    rw [← h]
    exact decode_encode e

/-- The same with layout faults made malformed envelopes. -/
theorem ofBytes_eq_ok_iff (bs : Bytes) (e : Envelope) : ofBytes bs = .ok e ↔ encode e = bs := by
  rw [← decode_eq_ok_iff, ofBytes]
  split
  · next found hfound => rw [hfound, Except.ok.injEq, Except.ok.injEq]
  · next fault hfault =>
    rw [hfault]
    constructor <;> intro h <;> contradiction

/-! ## Which bytes are read -/

/-- The length that some bytes declare for the wrapped key. -/
def declaredLength (bs : Bytes) : Nat := toNatBE (bs.take lengthPrefix)

/-- Bytes with the lengths of a stored envelope: four that declare the length of the wrapped key,
which is between 1 and 8192, then that many, and at least a nonce and a tag after them. -/
def HasLayout (bs : Bytes) : Prop :=
  lengthPrefix ≤ bs.length ∧ 1 ≤ declaredLength bs ∧ declaredLength bs ≤ Key.maxWrappedLength ∧
    lengthPrefix + declaredLength bs + (Cipher.nonceLength + Cipher.tagLength) ≤ bs.length

instance (bs : Bytes) : Decidable (HasLayout bs) :=
  inferInstanceAs (Decidable (_ ∧ _))

theorem declaredLength_encode (e : Envelope) : declaredLength (encode e) = e.wrappedKey.length := by
  rw [declaredLength, encode_eq, take_append_of_length (length_ofNatBE ..), toNatBE_lengthPrefix]

/-- Stored forms have these lengths. -/
theorem hasLayout_encode (e : Envelope) : HasLayout (encode e) := by
  have hpos : 0 < e.wrappedKey.length := e.wrappedKey.length_pos
  have hle : e.wrappedKey.length ≤ Key.maxWrappedLength := e.wrappedKey.length_le
  rw [HasLayout, declaredLength_encode, length_encode, encodedLength]
  omega

/-- Bytes with these lengths are read. -/
theorem exists_decode_of_hasLayout {bs : Bytes} (h : HasLayout bs) : ∃ e, decode bs = .ok e := by
  obtain ⟨hlong, hpos, hle, hrest⟩ := h
  rw [decode_eq, if_neg (Nat.not_lt_of_le hlong), ← declaredLength]
  -- The bytes after the prefix are enough for all that follows.
  have hdrop : (bs.drop lengthPrefix).length = bs.length - lengthPrefix := List.length_drop
  generalize declaredLength bs = declared at hpos hle hrest
  generalize bs.drop lengthPrefix = rest at hdrop
  have hkey : (rest.take declared).length = declared := by
    rw [List.length_take]
    omega
  have htail : Cipher.nonceLength + Cipher.tagLength ≤ (rest.drop declared).length := by
    rw [List.length_drop]
    omega
  obtain ⟨w, hw⟩ := (Key.Wrapped.exists_ofBytes_iff (rest.take declared)).mpr (by omega)
  rw [if_neg (Nat.ne_of_gt hpos), if_neg (by omega), hw]
  dsimp only
  rw [decodeTail, dif_pos htail]
  exact ⟨_, rfl⟩

/-- The stored form is longer than the ciphertext by no more than the overhead. -/
theorem encodedLength_le (e : Envelope) : e.encodedLength ≤ e.ciphertext.length + maxOverhead := by
  have hle : e.wrappedKey.length ≤ Key.maxWrappedLength := e.wrappedKey.length_le
  rw [encodedLength, maxOverhead]
  omega

/-- Exactly the bytes with these lengths are read. -/
theorem exists_ofBytes_iff (bs : Bytes) : (∃ e, ofBytes bs = .ok e) ↔ HasLayout bs := by
  constructor
  · rintro ⟨e, he⟩
    rw [← (ofBytes_eq_ok_iff bs e).mp he]
    exact hasLayout_encode e
  · intro h
    obtain ⟨e, he⟩ := exists_decode_of_hasLayout h
    exact ⟨e, by rw [ofBytes, he]⟩

/-- The least that is read: one byte of a wrapped key, a nonce, a tag, and no ciphertext. -/
example : HasLayout ([0, 0, 0, 1] ++ List.replicate 29 0) ∧
    ¬HasLayout ([0, 0, 0, 1] ++ List.replicate 28 0) := by decide

/-- All others are malformed envelopes. -/
theorem ofBytes_of_not_hasLayout {bs : Bytes} (h : ¬HasLayout bs) :
    ∃ fault, ofBytes bs = .error (.malformed (LayoutError.message fault)) := by
  cases hdecode : decode bs with
  | ok e =>
    have hread : ∃ e, ofBytes bs = .ok e := ⟨e, by rw [ofBytes, hdecode]⟩
    exact absurd ((exists_ofBytes_iff bs).mp hread) h
  | error fault => exact ⟨fault, by rw [ofBytes, hdecode]⟩

/-! ## Reading within the bytes -/

/-- The next bytes and those after them. A read that goes beyond the end gives nothing. -/
def readWithin (n : Nat) (bs : Bytes) : Option (Cipher.Sized n × Bytes) :=
  if h : n ≤ bs.length then some (⟨bs.take n, List.length_take_of_le h⟩, bs.drop n) else none

/-- Reading the tail with a cursor that must not pass the end. -/
def decodeTailWithin (wrappedKey : Key.Wrapped) (rest : Bytes) :
    Option (Except LayoutError Envelope) := do
  if rest.length < Cipher.nonceLength + Cipher.tagLength then
    return .error (.truncatedTail rest.length)
  let (nonce, body) ← readWithin Cipher.nonceLength rest
  let split ← Nat.psub body.length Cipher.tagLength
  let (ciphertext, rest) ← readWithin split body
  let (tag, _) ← readWithin Cipher.tagLength rest
  return .ok ⟨wrappedKey, nonce, ciphertext.val, tag⟩

/-- Reading field by field with a cursor that must not pass the end. It gives nothing if a read goes
beyond the end or a difference of lengths falls below zero. -/
def decodeWithin (bs : Bytes) : Option (Except LayoutError Envelope) := do
  if bs.length < lengthPrefix then return .error (.truncatedPrefix bs.length)
  let (declared, rest) ← readWithin lengthPrefix bs
  let declared := toNatBE declared.val
  if declared = 0 then return .error .emptyWrappedKey
  if declared > rest.length then return .error (.overrun declared rest.length)
  let (key, rest) ← readWithin declared rest
  match Key.Wrapped.ofBytes key.val with
  | .ok wrappedKey => decodeTailWithin wrappedKey rest
  | .error e => return .error (.wrappedKey e)

theorem readWithin_of_le {n : Nat} {bs : Bytes} (h : n ≤ bs.length) :
    readWithin n bs = some (⟨bs.take n, List.length_take_of_le h⟩, bs.drop n) := by
  rw [readWithin, dif_pos h]

/-- The tail is read within its bytes. -/
theorem decodeTailWithin_eq (w : Key.Wrapped) (rest : Bytes) :
    decodeTailWithin w rest = some (decodeTail w rest) := by
  by_cases h : Cipher.nonceLength + Cipher.tagLength ≤ rest.length
  · -- What the check has found is enough for the nonce, and what is left for the tag.
    have hnonce : Cipher.nonceLength ≤ rest.length := by omega
    have hbody : (rest.drop Cipher.nonceLength).length = rest.length - Cipher.nonceLength :=
      List.length_drop
    have hsplit : Cipher.tagLength ≤ (rest.drop Cipher.nonceLength).length := by omega
    have hleft : ((rest.drop Cipher.nonceLength).drop
        ((rest.drop Cipher.nonceLength).length - Cipher.tagLength)).length = Cipher.tagLength := by
      rw [List.length_drop]
      omega
    rw [decodeTailWithin, if_neg (Nat.not_lt_of_le h), decodeTail, dif_pos h,
      readWithin_of_le hnonce]
    simp only [Option.bind_eq_bind, Option.bind_some, Nat.psub_eq_sub hsplit,
      readWithin_of_le (Nat.sub_le _ _), readWithin_of_le (Nat.le_of_eq hleft.symm),
      List.take_of_length_le (Nat.le_of_eq hleft)]
    rfl
  · rw [decodeTailWithin, if_pos (Nat.lt_of_not_le h), decodeTail, dif_neg h]
    rfl

/-- No read goes beyond the end: reading with the cursor always comes to the same. -/
theorem decodeWithin_eq (bs : Bytes) : decodeWithin bs = some (decode bs) := by
  rw [decode_eq]
  by_cases hprefix : bs.length < lengthPrefix
  · rw [decodeWithin, if_pos hprefix, if_pos hprefix]
    rfl
  · rw [decodeWithin, if_neg hprefix, if_neg hprefix, readWithin_of_le (Nat.le_of_not_lt hprefix)]
    simp only [Option.bind_eq_bind, Option.bind_some]
    generalize toNatBE (bs.take lengthPrefix) = declared
    generalize bs.drop lengthPrefix = rest
    by_cases hzero : declared = 0
    · rw [if_pos hzero, if_pos hzero]
      rfl
    · by_cases hover : rest.length < declared
      · rw [if_neg hzero, if_neg hzero, if_pos hover, if_pos hover]
        rfl
      · rw [if_neg hzero, if_neg hzero, if_neg hover, if_neg hover,
          readWithin_of_le (Nat.le_of_not_lt hover)]
        simp only [Option.bind_some]
        cases Key.Wrapped.ofBytes (rest.take declared) with
        | ok w => exact decodeTailWithin_eq w (rest.drop declared)
        | error e => rfl

/-- **The layout is exact.** Bytes are read as an envelope if and only if they are its stored form.
Exactly the bytes with the lengths of a stored form are read, and all others are malformed; no read
goes beyond the end of the bytes. The stored form has the announced length, which exceeds that of
the ciphertext by a bounded number of bytes. -/
theorem layout_exact (bs : Bytes) (e : Envelope) :
    (ofBytes bs = .ok e ↔ encode e = bs) ∧
    ((∃ found, ofBytes bs = .ok found) ↔ HasLayout bs) ∧
    (¬HasLayout bs → ∃ reason, ofBytes bs = .error (.malformed reason)) ∧
    decodeWithin bs = some (decode bs) ∧
    (encode e).length = e.encodedLength ∧
    e.encodedLength ≤ e.ciphertext.length + maxOverhead := by
  refine ⟨ofBytes_eq_ok_iff bs e, exists_ofBytes_iff bs, ?_, decodeWithin_eq bs, length_encode e,
    encodedLength_le e⟩
  intro h
  obtain ⟨fault, hfault⟩ := ofBytes_of_not_hasLayout h
  exact ⟨_, hfault⟩

end Envelope
end PathSeal
