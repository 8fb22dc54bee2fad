import PathSeal.Entropy

/-!
# PathSeal.Proofs.Entropy

What a stream gives in several draws is what it gives in one: drawing twice in a
row takes two neighbouring pieces of it (`Entropy.peek_add`). For any given bytes
there is a stream that begins with them (`Entropy.peek_cyclic`).
-/

namespace PathSeal.Entropy

theorem skip_skip (e : Entropy) (m n : Nat) : (e.skip m).skip n = e.skip (m + n) := by
  simp only [skip, Nat.add_assoc]

/-- What is drawn next stands in the stream from its position on. -/
theorem peek_eq_map (e : Entropy) (n : Nat) :
    e.peek n = (List.range' e.position n).map e.stream := by
  rw [peek, List.range'_eq_map_range, List.map_map]
  rfl

/-- Two draws in a row take two neighbouring pieces. -/
theorem peek_add (e : Entropy) (m n : Nat) : e.peek (m + n) = e.peek m ++ (e.skip m).peek n := by
  simp only [peek, skip, List.range_add, List.map_append, List.map_map]
  congr 1
  apply List.map_congr_left
  intro i _
  rw [Function.comp_apply, Nat.add_assoc]

/-- The bytes that a draw begins and ends with are those of its two parts. -/
theorem peek_add_eq_append_iff (e : Entropy) {m n : Nat} {xs ys : Bytes} (h : xs.length = m) :
    e.peek (m + n) = xs ++ ys ↔ e.peek m = xs ∧ (e.skip m).peek n = ys := by
  rw [peek_add]
  have hlen : (e.peek m).length = xs.length := by rw [length_peek, h]
  constructor
  · intro heq
    exact List.append_inj heq hlen
  · rintro ⟨hxs, hys⟩
    rw [hxs, hys]

/-- A stream that repeats a seed begins with it. -/
theorem peek_cyclic (seed : Array UInt8) : (cyclic seed).peek seed.size = seed.toList := by
  apply List.ext_getElem
  · simp
  · intro i hi _
    have hsize : i < seed.size := by simpa using hi
    have hpos : 0 < seed.size := Nat.lt_of_le_of_lt (Nat.zero_le i) hsize
    simp [peek, cyclic, hpos, Nat.mod_eq_of_lt hsize]

end PathSeal.Entropy
