import PathSeal.Text.Split

/-!
# PathSeal.Proofs.Text.Split

Cutting at separators and joining again. A text is cut where the separator first occurs
in it (`splitOnce_append`) and stays whole only without one (`splitOnce_eq_none_iff`).

The fields of a text are what the library calls splitting it (`fields_eq_splitOnP`), so
its laws of splitting and joining apply.

A text's fields begin with those of another one exactly if the text is that other
one or goes on with a separator after it (`splitOn_prefix_iff`).
-/

namespace PathSeal.Text

/-- Dropping a beginning gives what follows it. -/
theorem dropPrefix?_eq_some_iff (start cs rest : List Char) :
    dropPrefix? start cs = some rest ↔ cs = start ++ rest := by
  induction start generalizing cs with
  | nil => simp [dropPrefix?]
  | cons s start ih =>
    cases cs with
    | nil => simp [dropPrefix?]
    | cons c cs =>
      rw [dropPrefix?]
      by_cases h : s = c
      · rw [if_pos h, ih, h]
        simp
      · rw [if_neg h]
        simp [Ne.symm h]

theorem dropPrefix?_eq_none_iff (start cs : List Char) :
    dropPrefix? start cs = none ↔ ¬start <+: cs := by
  constructor
  · rintro h ⟨rest, hrest⟩
    rw [(dropPrefix?_eq_some_iff start cs rest).mpr hrest.symm] at h
    contradiction
  · intro h
    cases hrest : dropPrefix? start cs with
    | none => rfl
    | some rest =>
      have hcs := (dropPrefix?_eq_some_iff start cs rest).mp hrest
      exact absurd ⟨rest, hcs.symm⟩ h

/-! ## The first separator -/

/-- A text that is cut at a separator has it between the two parts. -/
theorem eq_of_splitOnce {sep cs before after : List Char}
    (h : splitOnce sep cs = some (before, after)) : cs = before ++ sep ++ after := by
  induction cs generalizing before with
  | nil =>
    obtain ⟨rest, hrest, hparts⟩ := Option.map_eq_some_iff.mp h
    obtain ⟨rfl, rfl⟩ := Prod.mk.inj hparts
    exact (dropPrefix?_eq_some_iff sep [] rest).mp hrest
  | cons c cs ih =>
    rw [splitOnce] at h
    cases hstart : dropPrefix? sep (c :: cs) with
    | some rest =>
      rw [hstart] at h
      obtain ⟨rfl, rfl⟩ := Prod.mk.inj (Option.some.inj h)
      exact (dropPrefix?_eq_some_iff sep (c :: cs) rest).mp hstart
    | none =>
      rw [hstart] at h
      obtain ⟨⟨before', after'⟩, hparts, heq⟩ := Option.map_eq_some_iff.mp h
      obtain ⟨rfl, rfl⟩ := Prod.mk.inj heq
      rw [ih hparts]
      rfl

/-- Only a text without the separator is not cut. -/
theorem splitOnce_eq_none_iff (sep cs : List Char) : splitOnce sep cs = none ↔ ¬sep <:+: cs := by
  induction cs with
  | nil => rw [splitOnce, Option.map_eq_none_iff, dropPrefix?_eq_none_iff, List.prefix_nil,
      List.infix_nil]
  | cons c cs ih =>
    rw [splitOnce, List.infix_cons_iff, not_or, ← dropPrefix?_eq_none_iff, ← propext ih]
    cases dropPrefix? sep (c :: cs) with
    | none => simp
    | some rest => simp

section

variable {c : Char} {sep : List Char}

theorem not_infix_of_not_mem {cs : List Char} (h : c ∉ cs) : ¬c :: sep <:+: cs := by
  intro hsub
  exact h (hsub.subset List.mem_cons_self)

/-- What does not have the beginning of a separator in it stays before the first one. -/
theorem splitOnce_append_of_not_mem {before : List Char} (h : c ∉ before) (cs : List Char) :
    splitOnce (c :: sep) (before ++ cs) =
      (splitOnce (c :: sep) cs).map fun parts => (before ++ parts.1, parts.2) := by
  induction before with
  | nil => simp
  | cons b before ih =>
    obtain ⟨hne, hbefore⟩ := List.ne_and_not_mem_of_not_mem_cons h
    have hstart : dropPrefix? (c :: sep) (b :: (before ++ cs)) = none := by
      rw [dropPrefix?, if_neg hne]
    rw [List.cons_append, splitOnce, hstart, ih hbefore]
    simp [Function.comp_def]

/-- A text is cut where the separator first occurs, if its beginning does not come again in it. -/
theorem splitOnce_append (hsep : c ∉ sep) {before : List Char} (h : ¬c :: sep <:+: before)
    (after : List Char) :
    splitOnce (c :: sep) (before ++ c :: sep ++ after) = some (before, after) := by
  induction before with
  | nil =>
    have hstart := (dropPrefix?_eq_some_iff (c :: sep) (c :: sep ++ after) after).mpr rfl
    rw [List.nil_append, List.cons_append, splitOnce, ← List.cons_append, hstart]
  | cons b before ih =>
    rw [List.infix_cons_iff, not_or] at h
    have hstart : dropPrefix? (c :: sep) (b :: (before ++ (c :: sep ++ after))) = none := by
      rw [dropPrefix?_eq_none_iff]
      rintro ⟨rest, hrest⟩
      rw [← List.cons_append] at hrest
      rcases List.append_eq_append_iff.mp hrest with ⟨more, hmore, -⟩ | ⟨more, hmore, hafter⟩
      · exact h.1 ⟨more, hmore.symm⟩
      · cases more with
        | nil => exact h.1 ⟨[], by simpa using hmore⟩
        | cons d more =>
          -- The separator would begin before it and so have its own beginning in it.
          obtain ⟨rfl, -⟩ := List.cons.inj hafter
          obtain ⟨-, rfl⟩ := List.cons.inj hmore
          exact hsep (by simp)
    rw [List.append_assoc, List.cons_append, splitOnce, hstart, ← List.append_assoc, ih h.2]
    rfl

end

/-- What stands before the first separator does not have it. -/
theorem not_infix_of_splitOnce {sep cs before after : List Char} (hsep : sep ≠ [])
    (h : splitOnce sep cs = some (before, after)) : ¬sep <:+: before := by
  induction cs generalizing before with
  | nil =>
    obtain ⟨rest, hrest, -⟩ := Option.map_eq_some_iff.mp h
    have hcs := (dropPrefix?_eq_some_iff sep [] rest).mp hrest
    exact absurd (List.append_eq_nil_iff.mp hcs.symm).1 hsep
  | cons c cs ih =>
    rw [splitOnce] at h
    cases hstart : dropPrefix? sep (c :: cs) with
    | some rest =>
      rw [hstart] at h
      obtain ⟨rfl, rfl⟩ := Prod.mk.inj (Option.some.inj h)
      rwa [List.infix_nil]
    | none =>
      rw [hstart] at h
      obtain ⟨⟨before', after'⟩, hparts, heq⟩ := Option.map_eq_some_iff.mp h
      obtain ⟨rfl, rfl⟩ := Prod.mk.inj heq
      have hcs : c :: before' <+: c :: cs := by
        rw [eq_of_splitOnce hparts, List.append_assoc, ← List.cons_append]
        exact List.prefix_append _ _
      rw [List.infix_cons_iff, not_or]
      refine ⟨fun hbegins => ?_, ih hparts⟩
      exact (dropPrefix?_eq_none_iff sep _).mp hstart (hbegins.trans hcs)

theorem not_mem_of_splitOnce {c : Char} {cs before after : List Char}
    (h : splitOnce [c] cs = some (before, after)) : c ∉ before := by
  intro hmem
  obtain ⟨xs, ys, hbefore⟩ := List.append_of_mem hmem
  refine not_infix_of_splitOnce (List.cons_ne_nil c []) h ⟨xs, ys, ?_⟩
  rw [hbefore]
  simp

/-! ## All separators -/

/-- Fields are cut as the library cuts lists. -/
theorem fields_eq_splitOnP (isSeparator : Char → Bool) (cs : List Char) :
    fields isSeparator cs = cs.splitOnP isSeparator := by
  induction cs with
  | nil => rfl
  | cons c cs ih =>
    rw [fields, List.splitOnP_cons_eq_if_modifyHead, ih]
    cases hfields : cs.splitOnP isSeparator with
    | nil => exact absurd hfields (List.splitOnP_ne_nil isSeparator cs)
    | cons field rest => rfl

/-- Pieces in two groups are joined with one more separator between the groups. -/
theorem intercalate_append {α : Type} (a : α) {xs ys : List (List α)} (hxs : xs ≠ [])
    (hys : ys ≠ []) :
    [a].intercalate (xs ++ ys) = [a].intercalate xs ++ a :: [a].intercalate ys := by
  induction xs with
  | nil => exact absurd rfl hxs
  | cons x xs ih =>
    cases xs with
    | nil =>
      rw [List.singleton_append, List.intercalate_cons_of_ne_nil hys]
      simp
    | cons x' xs =>
      rw [List.cons_append, List.intercalate_cons_of_ne_nil (by simp),
        ih (List.cons_ne_nil x' xs), List.intercalate_cons_of_ne_nil (List.cons_ne_nil x' xs)]
      simp only [List.append_assoc]

theorem infix_intercalate_of_mem {α : Type} (sep : List α) {xs : List (List α)} {x : List α}
    (h : x ∈ xs) : x <:+: sep.intercalate xs := by
  induction xs with
  | nil => exact absurd h List.not_mem_nil
  | cons first others ih =>
    cases others with
    | nil =>
      have hjoined : sep.intercalate [first] = x := by
        rw [List.intercalate_singleton, List.mem_singleton.mp h]
      exact hjoined.symm ▸ List.infix_rfl
    | cons second others =>
      rw [List.intercalate_cons_of_ne_nil (List.cons_ne_nil second others), List.append_assoc]
      rcases List.mem_cons.mp h with rfl | hmem
      · exact (List.prefix_append ..).isInfix
      · exact ((ih hmem).trans (List.suffix_append ..).isInfix).trans
          (List.suffix_append ..).isInfix

section

variable {α : Type} [DecidableEq α] (a : α)

/-- No piece has the separator in it. -/
theorem not_mem_of_mem_splitOn {xs piece : List α} (h : piece ∈ xs.splitOn a) : a ∉ piece := by
  induction xs generalizing piece with
  | nil =>
    rw [List.splitOn_nil, List.mem_singleton] at h
    rw [h]
    exact List.not_mem_nil
  | cons x xs ih =>
    rw [List.splitOn_cons_eq_if_modifyHead] at h
    cases hpieces : xs.splitOn a with
    | nil => exact absurd hpieces (List.splitOn_ne_nil a xs)
    | cons first others =>
      rw [hpieces] at h ih
      by_cases hx : x == a
      · rw [if_pos hx] at h
        rcases List.mem_cons.mp h with rfl | hmem
        · exact List.not_mem_nil
        · exact ih hmem
      · rw [if_neg hx, List.modifyHead_cons] at h
        rcases List.mem_cons.mp h with rfl | hmem
        · have hfirst : a ∉ first := ih List.mem_cons_self
          have hne : a ≠ x := fun heq => hx (beq_iff_eq.mpr heq.symm)
          exact List.not_mem_cons_of_ne_of_not_mem hne hfirst
        · exact ih (List.mem_cons_of_mem first hmem)

/-- The pieces of a list begin with those of another exactly if the list is the other one, or goes
on after it with a separator. -/
theorem splitOn_prefix_iff (xs ys : List α) :
    xs.splitOn a <+: ys.splitOn a ↔ ys = xs ∨ ∃ rest, ys = xs ++ a :: rest := by
  constructor
  · rintro ⟨others, h⟩
    have hjoined : ys = [a].intercalate (xs.splitOn a ++ others) := by
      rw [h, List.intercalate_splitOn]
    by_cases hothers : others = []
    · left
      rw [hjoined, hothers, List.append_nil, List.intercalate_splitOn]
    · right
      rw [intercalate_append a (List.splitOn_ne_nil a xs) hothers, List.intercalate_splitOn]
        at hjoined
      exact ⟨_, hjoined⟩
  · rintro (rfl | ⟨rest, rfl⟩)
    · exact List.prefix_refl _
    · rw [List.splitOn_append_cons_self]
      exact List.prefix_append _ _

end

end PathSeal.Text
