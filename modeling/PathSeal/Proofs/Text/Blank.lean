import Mathlib.Data.List.TakeWhile
import PathSeal.Text.Blank

/-!
# PathSeal.Proofs.Text.Blank

What is taken away at the ends of a text. The rest stands in the text
(`stripEnds_infix`) and has nothing at its ends that could be taken away
(`bareEnds_stripEnds`); whatever such a text is padded with goes again
(`stripEnds_padded`).
-/

namespace PathSeal.Text

variable {p : Char → Bool}

/-- A test fails for the characters at the ends of a text. -/
def BareEnds (p : Char → Bool) (cs : List Char) : Prop :=
  (∀ c ∈ cs.head?, p c = false) ∧ ∀ c ∈ cs.getLast?, p c = false

/-- Only two characters have to be looked at. -/
theorem bareEnds_iff (cs : List Char) :
    BareEnds p cs ↔ cs.head?.any p = false ∧ cs.getLast?.any p = false := by
  have hany (o : Option Char) : (∀ c ∈ o, p c = false) ↔ o.any p = false := by
    cases o with
    | none => simp
    | some c => simp
  rw [BareEnds, hany, hany]

instance (p : Char → Bool) (cs : List Char) : Decidable (BareEnds p cs) :=
  decidable_of_iff _ (bareEnds_iff cs).symm

/-- There is nothing but white space. -/
def Blank (cs : List Char) : Prop := ∀ c ∈ cs, isBlank c

instance (cs : List Char) : Decidable (Blank cs) :=
  decidable_of_iff (cs.all isBlank) List.all_eq_true

/-- What is left between the ends stands in the text. -/
theorem stripEnds_infix (p : Char → Bool) (cs : List Char) : stripEnds p cs <:+: cs := by
  have hend : ((cs.dropWhile p).reverse.dropWhile p).reverse <+: cs.dropWhile p := by
    rw [← List.reverse_suffix, List.reverse_reverse]
    exact List.dropWhile_suffix p
  exact hend.isInfix.trans (List.dropWhile_suffix p).isInfix

/-- Dropping stops at the first character that the test fails for. -/
theorem dropWhile_append_of_head {xs ys : List Char} (hxs : ∀ c ∈ xs, p c)
    (hys : ∀ c ∈ ys.head?, p c = false) : (xs ++ ys).dropWhile p = ys := by
  rw [List.dropWhile_append_of_pos hxs]
  cases ys with
  | nil => rfl
  | cons y ys => rw [List.dropWhile_cons_of_neg (by simp [hys y rfl])]

/-- What a text with bare ends is padded with is taken away again. -/
theorem stripEnds_padded {xs ys zs : List Char} (hxs : ∀ c ∈ xs, p c) (hys : BareEnds p ys)
    (hzs : ∀ c ∈ zs, p c) : stripEnds p (xs ++ ys ++ zs) = ys := by
  rw [stripEnds, List.append_assoc]
  cases ys with
  | nil =>
    have hall : ∀ c ∈ xs ++ ([] ++ zs), p c := by
      simpa [or_imp, forall_and] using And.intro hxs hzs
    rw [List.dropWhile_eq_nil_iff.mpr hall]
    rfl
  | cons y ys =>
    have hhead : ∀ c ∈ (y :: ys ++ zs).head?, p c = false := hys.1
    have hlast : ∀ c ∈ (y :: ys).reverse.head?, p c = false := by
      rw [List.head?_reverse]
      exact hys.2
    have hback : ∀ c ∈ zs.reverse, p c := by simpa using hzs
    rw [dropWhile_append_of_head hxs hhead, List.reverse_append,
      dropWhile_append_of_head hback hlast, List.reverse_reverse]

theorem BareEnds.trimChars {cs : List Char} (h : BareEnds isBlank cs) : trimChars cs = cs := by
  have hpadded := stripEnds_padded (List.forall_mem_nil _) h (List.forall_mem_nil _)
  rwa [List.nil_append, List.append_nil] at hpadded

/-- What is left has bare ends. -/
theorem bareEnds_stripEnds (p : Char → Bool) (cs : List Char) : BareEnds p (stripEnds p cs) := by
  have hdrop (ds : List Char) : ∀ c ∈ (ds.dropWhile p).head?, p c = false := by
    intro c hc
    have hnot := List.head?_dropWhile_not p ds
    rw [hc] at hnot
    exact hnot
  constructor
  · intro c hc
    have hprefix : stripEnds p cs <+: cs.dropWhile p := by
      rw [← List.reverse_suffix, stripEnds, List.reverse_reverse]
      exact List.dropWhile_suffix p
    obtain ⟨rest, hrest⟩ := hprefix
    apply hdrop cs
    rw [← hrest, List.head?_append, hc]
    rfl
  · rw [stripEnds, List.getLast?_reverse]
    exact hdrop _

/-- Only the ends of a text have to be bare. -/
theorem bareEnds_append {xs zs : List Char} (hxs : xs ≠ [])
    (hhead : ∀ c ∈ xs.head?, p c = false) (ys : List Char) (hzs : zs ≠ [])
    (hlast : ∀ c ∈ zs.getLast?, p c = false) : BareEnds p (xs ++ ys ++ zs) := by
  constructor
  · cases xs with
    | nil => contradiction
    | cons x xs => exact hhead
  · rw [List.getLast?_eq_some_getLast hzs] at hlast
    rw [List.getLast?_append, List.getLast?_eq_some_getLast hzs]
    exact hlast

/-- What is appended does not matter if the test fails for all of it. -/
theorem BareEnds.append {xs ys : List Char} (hxs : BareEnds p xs) (hys : ∀ c ∈ ys, p c = false) :
    BareEnds p (xs ++ ys) := by
  constructor
  · intro c hc
    rw [List.head?_append, Option.mem_def, Option.or_eq_some_iff] at hc
    rcases hc with hc | ⟨-, hc⟩
    · exact hxs.1 c hc
    · exact hys c (List.mem_of_head? hc)
  · intro c hc
    rw [List.getLast?_append, Option.mem_def, Option.or_eq_some_iff] at hc
    rcases hc with hc | ⟨-, hc⟩
    · exact hys c (List.mem_of_getLast? hc)
    · exact hxs.2 c hc

theorem BareEnds.getLast {xs ys : List Char} (h : BareEnds p (xs ++ ys)) :
    ∀ c ∈ ys.getLast?, p c = false := by
  intro c hc
  apply h.2
  rw [List.getLast?_append, hc]
  rfl

theorem Blank.not_mem {cs : List Char} (h : Blank cs) {c : Char} (hc : isBlank c = false) :
    c ∉ cs := by
  intro hmem
  rw [h c hmem] at hc
  contradiction

theorem Blank.trimChars {cs : List Char} (h : Blank cs) : trimChars cs = [] := by
  rw [Text.trimChars, stripEnds, List.dropWhile_eq_nil_iff.mpr h]
  rfl

end PathSeal.Text
