import Mathlib.Data.List.Induction
import PathSeal.Bytes

/-!
# PathSeal.Proofs.Bytes

Numbers in base 256 read back: `toNatBE` undoes `ofNatBE` for every number that
fits the width, and `ofNatBE` undoes `toNatBE` for every buffer. So a field of
fixed width has exactly one written form.

The pieces of an appended buffer are found again at the lengths of its parts. Bytes
are read as a text exactly if they are its UTF-8 form (`toString?_eq_some_iff`).
-/

namespace PathSeal.Bytes

/-! ## Base 256 -/

/-- The last byte is the lowest digit. -/
theorem toNatBE_append_singleton (bs : Bytes) (b : UInt8) :
    toNatBE (bs ++ [b]) = 256 * toNatBE bs + b.toNat := by
  simp [toNatBE]

/-- Writing one more digit appends the lowest one. -/
theorem ofNatBE_succ (width n : Nat) :
    ofNatBE (width + 1) n = ofNatBE width (n / 256) ++ [UInt8.ofNat n] := by
  simp [ofNatBE, ofNatLE]

/-- A number that fits the width reads back. -/
theorem toNatBE_ofNatBE {width n : Nat} (h : n < Nat.pow 256 width) :
    toNatBE (ofNatBE width n) = n := by
  induction width generalizing n with
  | zero =>
    have hn : n = 0 := Nat.lt_one_iff.mp h
    rw [hn]
    rfl
  | succ width ih =>
    have hdiv : n / 256 < Nat.pow 256 width := by
      apply Nat.div_lt_of_lt_mul
      rw [Nat.mul_comm]
      exact h
    rw [ofNatBE_succ, toNatBE_append_singleton, ih hdiv, UInt8.toNat_ofNat']
    exact Nat.div_add_mod n 256

/-- A buffer is the written form of the number it stands for. -/
theorem ofNatBE_toNatBE (bs : Bytes) : ofNatBE bs.length (toNatBE bs) = bs := by
  -- The induction takes bytes off the end, where the lowest digit stands.
  induction bs using List.reverseRecOn with
  | nil => rfl
  | append_singleton bs b ih =>
    have hb : b.toNat < 256 := b.toNat_lt
    have hdiv : (256 * toNatBE bs + b.toNat) / 256 = toNatBE bs := by omega
    have hlow : UInt8.ofNat (256 * toNatBE bs + b.toNat) = b := by
      apply UInt8.toNat_inj.mp
      rw [UInt8.toNat_ofNat']
      omega
    rw [List.length_append, List.length_singleton, toNatBE_append_singleton, ofNatBE_succ, hdiv,
      hlow, ih]

/-! ## Parts of an appended buffer -/

/-- Taking the length of a first part gives that part. -/
theorem take_append_of_length {xs ys : Bytes} {n : Nat} (h : xs.length = n) :
    (xs ++ ys).take n = xs := by
  subst h
  simp

/-- Dropping the length of a first part gives the rest. -/
theorem drop_append_of_length {xs ys : Bytes} {n : Nat} (h : xs.length = n) :
    (xs ++ ys).drop n = ys := by
  subst h
  simp

/-! ## Texts -/

/-- Bytes are read as a text exactly if they are its UTF-8 form. -/
theorem toString?_eq_some_iff (bs : Bytes) (s : String) :
    toString? bs = some s ↔ ofString s = bs := by
  rw [toString?, ofString, String.fromUTF8?]
  by_cases h : (⟨bs.toArray⟩ : ByteArray).IsValidUTF8
  · rw [dif_pos h, Option.some.injEq]
    constructor
    · rintro rfl
      rfl
    · rintro rfl
      rfl
  · rw [dif_neg h]
    constructor
    · intro hnone
      contradiction
    · rintro rfl
      exact absurd s.isValidUTF8 h

end PathSeal.Bytes
