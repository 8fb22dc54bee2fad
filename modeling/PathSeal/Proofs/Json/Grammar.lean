import PathSeal.Proofs.Json.Numbers
import PathSeal.Proofs.Json.Strings

/-!
# PathSeal.Proofs.Json.Grammar

The grammar of JSON values (`Derives`), and skipping a value: whatever value a text
begins with is passed over, however deeply it is nested (`skipValue_append`).

What skipping a part of a value comes to is the same for all parts (`Skips`): it goes on
after the part, having taken at most two steps for each of its characters. So the steps
that a text is given always suffice.
-/

namespace PathSeal.Json

/-! ## Values -/

namespace Frame

/-- The bracket that opens a list or an object. -/
def opening : Frame → Char
  | list => '['
  | object => '\x7b'

/-- The bracket that closes it. -/
def closing : Frame → Char
  | list => ']'
  | object => '\x7d'

end Frame

theorem ends_closing (frame : Frame) (rest : List Char) : Ends (frame.closing :: rest) := by
  cases frame <;> simp [Ends, Frame.closing, isDigit]

/-- The parts of values: lists and objects have items, which are values, after a key in an
object. -/
inductive Part where
  | value
  /-- A value with the blanks around it. -/
  | spaced
  | item (frame : Frame)
  | items (frame : Frame)

/-- The grammar of JSON. -/
inductive Derives : Part → List Char → Prop where
  | named {cs : List Char}
    (h : cs ∈ [['n', 'u', 'l', 'l'], ['t', 'r', 'u', 'e'], ['f', 'a', 'l', 's', 'e']]) :
    Derives .value cs
  | number {cs : List Char} (h : IsUnsigned cs) : Derives .value cs
  | negative {cs : List Char} (h : IsUnsigned cs) : Derives .value ('-' :: cs)
  | text {cs : List Char} (h : IsQuotable cs) : Derives .value ('"' :: (cs ++ ['"']))
  | empty {ws : List Char} (frame : Frame) (h : Blanks ws) :
    Derives .value (frame.opening :: (ws ++ [frame.closing]))
  | full {frame : Frame} {cs : List Char} (h : Derives (.items frame) cs) :
    Derives .value (frame.opening :: (cs ++ [frame.closing]))
  | spaced {before cs after : List Char} (hbefore : Blanks before) (h : Derives .value cs)
    (hafter : Blanks after) : Derives .spaced (before ++ (cs ++ after))
  | element {cs : List Char} (h : Derives .spaced cs) : Derives (.item .list) cs
  | member {before key between cs : List Char} (hbefore : Blanks before) (hkey : IsQuotable key)
    (hbetween : Blanks between) (h : Derives .spaced cs) :
    Derives (.item .object) (before ++ '"' :: (key ++ '"' :: (between ++ ':' :: cs)))
  | last {frame : Frame} {cs : List Char} (h : Derives (.item frame) cs) : Derives (.items frame) cs
  | more {frame : Frame} {cs rest : List Char} (h : Derives (.item frame) cs)
    (hrest : Derives (.items frame) rest) : Derives (.items frame) (cs ++ ',' :: rest)

/-! ## First characters -/

/-- The first character of a value. -/
def IsFirst (c : Char) : Prop :=
  isBlank c = false ∧ c ≠ ']' ∧ c ≠ '\x7d'

theorem isFirst_of_isDigit {c : Char} (h : isDigit c) : IsFirst c := by
  have hblank : ¬isBlank c := by
    intro hblank
    simp only [isBlank, Bool.or_eq_true, beq_iff_eq] at hblank
    rcases hblank with ((rfl | rfl) | rfl) | rfl <;> contradiction
  refine ⟨Bool.eq_false_iff.mpr hblank, ?_, ?_⟩
  · rintro rfl
    contradiction
  · rintro rfl
    contradiction

theorem isFirst_opening (frame : Frame) : IsFirst frame.opening := by
  cases frame <;> exact ⟨rfl, by decide, by decide⟩

theorem isFirst_quote : IsFirst '"' := ⟨rfl, by decide, by decide⟩

/-- A number without its sign begins with a digit. -/
theorem IsUnsigned.exists_digit {cs : List Char} (h : IsUnsigned cs) :
    ∃ d more, cs = d :: more ∧ isDigit d := by
  obtain ⟨hwhole, hfraction, hexponent⟩ := h
  cases hwhole with
  | zero => exact ⟨'0', _, rfl, rfl⟩
  | @digits d ds hne h => exact ⟨d, _, rfl, h.2 d List.mem_cons_self⟩

/-- A value begins with such a character, and each other part does so after blanks. -/
theorem Derives.exists_first {part : Part} {cs : List Char} (h : Derives part cs) :
    ∃ ws c more, cs = ws ++ c :: more ∧ Blanks ws ∧ IsFirst c ∧ (part = .value → ws = []) := by
  induction h with
  | named h =>
    simp only [List.mem_cons, List.not_mem_nil, or_false] at h
    rcases h with rfl | rfl | rfl <;>
      exact ⟨[], _, _, rfl, blanks_nil, ⟨rfl, by decide, by decide⟩, fun _ => rfl⟩
  | number h =>
    obtain ⟨d, more, hcs, hd⟩ := h.exists_digit
    exact ⟨[], d, more, hcs, blanks_nil, isFirst_of_isDigit hd, fun _ => rfl⟩
  | @negative cs h =>
    exact ⟨[], '-', cs, rfl, blanks_nil, ⟨rfl, by decide, by decide⟩, fun _ => rfl⟩
  | @text cs h => exact ⟨[], '"', _, rfl, blanks_nil, isFirst_quote, fun _ => rfl⟩
  | empty frame h | @full frame cs h ih =>
    exact ⟨[], frame.opening, _, rfl, blanks_nil, isFirst_opening frame, fun _ => rfl⟩
  | spaced hbefore h hafter ih =>
    obtain ⟨ws, c, more, rfl, -, hfirst, hws⟩ := ih
    rw [hws rfl]
    exact ⟨_, c, _, rfl, hbefore, hfirst, by simp⟩
  | member hbefore hkey hbetween h ih => exact ⟨_, '"', _, rfl, hbefore, isFirst_quote, by simp⟩
  | element h ih | last h ih =>
    obtain ⟨ws, c, more, rfl, hws, hfirst, -⟩ := ih
    exact ⟨ws, c, more, rfl, hws, hfirst, by simp⟩
  | more h hrest ih ihrest =>
    obtain ⟨ws, c, more, rfl, hws, hfirst, -⟩ := ih
    exact ⟨ws, c, _, by rw [List.append_assoc]; rfl, hws, hfirst, by simp⟩

/-! ## Skipping -/

/-- Goes on with an item of an open list or object. -/
def enter (frame : Frame) (fuel : Nat) (frames : List Frame) (cs : List Char) :
    Except Fault (List Char) :=
  match frame with
  | .list => skipNested fuel (.list :: frames) cs
  | .object => do skipNested fuel (.object :: frames) (← skipKey cs)

section

variable {frame : Frame} {fuel : Nat} {frames : List Frame} {cs rest out : List Char}

theorem skipNested_blanks {ws : List Char} (hws : Blanks ws) :
    skipNested (fuel + 1) frames (ws ++ cs) = skipNested (fuel + 1) frames cs := by
  rw [skipNested, skipBlanks_append hws, ← skipNested]

theorem skipAfter_blanks {ws : List Char} (hws : Blanks ws) :
    skipAfter (fuel + 1) (frame :: frames) (ws ++ cs) =
      skipAfter (fuel + 1) (frame :: frames) cs := by
  cases frame with
  | list => rw [skipAfter, skipBlanks_append hws, ← skipAfter]
  | object => rw [skipAfter, skipBlanks_append hws, ← skipAfter]

/-- A value that is no list or object is passed over. -/
theorem skipNested_of_scalar {c : Char} (hfirst : IsFirst c)
    (hopening : ∀ frame : Frame, c ≠ frame.opening) (hscalar : skipScalar (c :: cs) = .ok rest) :
    skipNested (fuel + 1) frames (c :: cs) = skipAfter fuel frames rest := by
  rw [skipNested, skipBlanks_cons hfirst.1]
  split
  · next h => exact absurd (List.cons.inj h).1 (hopening .list)
  · next h => exact absurd (List.cons.inj h).1 (hopening .object)
  · rw [hscalar]
    rfl

theorem skipNested_opening (frame : Frame) :
    skipNested (fuel + 1) frames (frame.opening :: cs) = skipFirst fuel frame frames cs := by
  cases frame with
  | list =>
    rw [Frame.opening, skipNested, skipBlanks_cons rfl]
    rfl
  | object =>
    rw [Frame.opening, skipNested, skipBlanks_cons rfl]
    rfl

theorem skipFirst_closing {ws : List Char} (hws : Blanks ws) :
    skipFirst (fuel + 1) frame frames (ws ++ frame.closing :: rest) =
      skipAfter fuel frames rest := by
  cases frame with
  | list =>
    rw [skipFirst, skipBlanks_append hws, Frame.closing, skipBlanks_cons rfl]
    rfl
  | object =>
    rw [skipFirst, skipBlanks_append hws, Frame.closing, skipBlanks_cons rfl]
    rfl

/-- An object's key is taken with its colon. -/
theorem skipKey_append {before key between : List Char} (hbefore : Blanks before)
    (hkey : IsQuotable key) (hbetween : Blanks between) :
    skipKey (before ++ '"' :: (key ++ '"' :: (between ++ ':' :: cs))) = .ok cs := by
  have hstring : skipString ((key ++ '"' :: (between ++ ':' :: cs)).length + 1)
      (key ++ '"' :: (between ++ ':' :: cs)) = .ok (between ++ ':' :: cs) := by
    apply skipString_append hkey
    rw [List.length_append]
    omega
  have hcolon : skipBlanks (between ++ ':' :: cs) = ':' :: cs := by
    rw [skipBlanks_append hbetween, skipBlanks_cons rfl]
  rw [skipKey, skipBlanks_append hbefore, skipBlanks_cons rfl]
  simp only [hstring, bind, Except.bind, hcolon]
  rfl

theorem enter_of_blanks {ws : List Char} (hws : Blanks ws)
    (h : enter frame fuel frames (ws ++ cs) = .ok out) : enter frame fuel frames cs = .ok out := by
  cases frame with
  | list =>
    cases fuel with
    | zero => contradiction
    | succ fuel => exact (skipNested_blanks hws).symm.trans h
  | object =>
    have hkey : skipKey (ws ++ cs) = skipKey cs := by
      rw [skipKey, skipBlanks_append hws, ← skipKey]
    rwa [enter, hkey] at h

theorem skipFirst_of_enter {ws : List Char} {c : Char} (hws : Blanks ws) (hfirst : IsFirst c)
    (h : enter frame fuel frames (ws ++ c :: cs) = .ok out) :
    skipFirst (fuel + 1) frame frames (ws ++ c :: cs) = .ok out := by
  have henter := enter_of_blanks hws h
  cases frame with
  | list =>
    rw [skipFirst, skipBlanks_append hws, skipBlanks_cons hfirst.1]
    split
    · next hclosing => exact absurd (List.cons.inj hclosing).1 hfirst.2.1
    · contradiction
    · exact henter
  | object =>
    rw [skipFirst, skipBlanks_append hws, skipBlanks_cons hfirst.1]
    split
    · next hclosing => exact absurd (List.cons.inj hclosing).1 hfirst.2.2
    · contradiction
    · exact henter

theorem skipAfter_comma :
    skipAfter (fuel + 1) (frame :: frames) (',' :: cs) = enter frame fuel frames cs := by
  cases frame with
  | list => rfl
  | object => rfl

theorem skipAfter_closing :
    skipAfter (fuel + 1) (frame :: frames) (frame.closing :: cs) = skipAfter fuel frames cs := by
  cases frame with
  | list => rfl
  | object => rfl

theorem skipNested_append {ws : List Char} (hws : Blanks ws)
    (h : skipNested fuel frames cs = .ok out) : skipNested fuel frames (ws ++ cs) = .ok out := by
  cases fuel with
  | zero => contradiction
  | succ fuel => rwa [skipNested_blanks hws]

theorem skipAfter_append {ws : List Char} (hws : Blanks ws)
    (h : skipAfter fuel (frame :: frames) cs = .ok out) :
    skipAfter fuel (frame :: frames) (ws ++ cs) = .ok out := by
  cases fuel with
  | zero => contradiction
  | succ fuel => rwa [skipAfter_blanks hws]

end

/-- What skipping a part comes to: it goes on after the part. No character takes more than two
steps. -/
def Skips : Part → List Char → Prop
  | .value, cs => ∃ k ≤ 2 * cs.length, ∀ fuel frames rest out, Ends rest →
      skipAfter fuel frames rest = .ok out → skipNested (fuel + k) frames (cs ++ rest) = .ok out
  | .spaced, cs => ∃ k ≤ 2 * cs.length, ∀ fuel frame frames rest out, Ends rest →
      skipAfter fuel (frame :: frames) rest = .ok out →
        skipNested (fuel + k) (frame :: frames) (cs ++ rest) = .ok out
  | .item frame, cs => ∃ k ≤ 2 * cs.length, ∀ fuel frames rest out, Ends rest →
      skipAfter fuel (frame :: frames) rest = .ok out →
        enter frame (fuel + k) frames (cs ++ rest) = .ok out
  | .items frame, cs => ∃ k ≤ 2 * cs.length + 1, ∀ fuel frames rest out,
      skipAfter fuel frames rest = .ok out →
        enter frame (fuel + k) frames (cs ++ frame.closing :: rest) = .ok out

/-- A value that is no list or object is passed over in one step. -/
theorem skips_scalar {c : Char} {cs : List Char} (hfirst : IsFirst c)
    (hopening : ∀ frame : Frame, c ≠ frame.opening)
    (h : ∀ rest, Ends rest → skipScalar (c :: (cs ++ rest)) = .ok rest) :
    Skips .value (c :: cs) := by
  refine ⟨1, by simp only [List.length_cons]; omega, ?_⟩
  intro fuel frames rest out hends hrest
  rw [List.cons_append, skipNested_of_scalar hfirst hopening (h rest hends), hrest]

/-- Digits begin numbers only. -/
theorem skipScalar_of_isDigit {d : Char} (h : isDigit d) (cs : List Char) :
    skipScalar (d :: cs) = skipNumber (d :: cs) := by
  rw [skipScalar, if_pos h]
  all_goals
    rintro rfl
    contradiction

namespace Skips

section

variable {frame : Frame} {before cs after : List Char}

/-- A list or object without items is closed at once. -/
theorem empty {ws : List Char} (h : Blanks ws) :
    Skips .value (frame.opening :: (ws ++ [frame.closing])) := by
  refine ⟨2, by simp only [List.length_cons]; omega, ?_⟩
  intro fuel frames rest out _ hrest
  have hcs : frame.opening :: (ws ++ [frame.closing]) ++ rest =
      frame.opening :: (ws ++ frame.closing :: rest) := by simp
  rw [hcs, skipNested_opening, skipFirst_closing h, hrest]

/-- One with items is closed after them. -/
theorem full (hitems : Derives (.items frame) cs) (h : Skips (.items frame) cs) :
    Skips .value (frame.opening :: (cs ++ [frame.closing])) := by
  obtain ⟨k, hk, henter⟩ := h
  obtain ⟨ws, c, more, rfl, hws, hfirst, -⟩ := hitems.exists_first
  refine ⟨k + 2, ?_, ?_⟩
  · simp only [List.length_cons, List.length_append, List.length_nil] at hk ⊢
    omega
  · intro fuel frames rest out _ hrest
    have hentered := henter fuel frames rest out hrest
    rw [List.append_assoc, List.cons_append] at hentered
    have hcs : frame.opening :: (ws ++ c :: more ++ [frame.closing]) ++ rest =
        frame.opening :: (ws ++ c :: (more ++ frame.closing :: rest)) := by simp
    rw [hcs, ← Nat.add_assoc, skipNested_opening]
    exact skipFirst_of_enter hws hfirst hentered

/-- The blanks around a value are passed over with it. -/
theorem spaced (hbefore : Blanks before) (h : Skips .value cs) (hafter : Blanks after) :
    Skips .spaced (before ++ (cs ++ after)) := by
  obtain ⟨k, hk, hvalue⟩ := h
  refine ⟨k, ?_, ?_⟩
  · simp only [List.length_append]
    omega
  · intro fuel frame frames rest out hends hrest
    rw [List.append_assoc, List.append_assoc]
    exact skipNested_append hbefore (hvalue fuel (frame :: frames) (after ++ rest) out
      (ends_append hafter hends) (skipAfter_append hafter hrest))

/-- The key of a member is passed over with its value. -/
theorem member {key between : List Char} (hbefore : Blanks before) (hkey : IsQuotable key)
    (hbetween : Blanks between) (h : Skips .spaced cs) :
    Skips (.item .object) (before ++ '"' :: (key ++ '"' :: (between ++ ':' :: cs))) := by
  obtain ⟨k, hk, hspaced⟩ := h
  refine ⟨k, ?_, ?_⟩
  · simp only [List.length_append, List.length_cons]
    omega
  · intro fuel frames rest out hends hrest
    have hcs : before ++ '"' :: (key ++ '"' :: (between ++ ':' :: cs)) ++ rest =
        before ++ '"' :: (key ++ '"' :: (between ++ ':' :: (cs ++ rest))) := by simp
    rw [enter, hcs, skipKey_append hbefore hkey hbetween]
    exact hspaced fuel .object frames rest out hends hrest

/-- The last item ends at the closing bracket. -/
theorem last (h : Skips (.item frame) cs) : Skips (.items frame) cs := by
  obtain ⟨k, hk, hitem⟩ := h
  refine ⟨k + 1, by omega, ?_⟩
  intro fuel frames rest out hrest
  have hclosing : skipAfter (fuel + 1) (frame :: frames) (frame.closing :: rest) = .ok out :=
    skipAfter_closing.trans hrest
  rw [Nat.add_comm k, ← Nat.add_assoc]
  exact hitem (fuel + 1) frames _ out (ends_closing frame rest) hclosing

/-- Every other one ends at a comma. -/
theorem more {others : List Char} (h : Skips (.item frame) cs)
    (hothers : Skips (.items frame) others) : Skips (.items frame) (cs ++ ',' :: others) := by
  obtain ⟨k, hk, hitem⟩ := h
  obtain ⟨k', hk', hitems⟩ := hothers
  refine ⟨k' + 1 + k, ?_, ?_⟩
  · simp only [List.length_append, List.length_cons]
    omega
  · intro fuel frames rest out hrest
    have hnext := skipAfter_comma.trans (hitems fuel frames rest out hrest)
    rw [← Nat.add_assoc, List.append_assoc]
    exact hitem (fuel + k' + 1) frames _ out (ends_comma _) hnext

end

end Skips

/-- Each part is passed over. -/
theorem Derives.skips {part : Part} {cs : List Char} (h : Derives part cs) : Skips part cs := by
  induction h with
  | named h =>
    simp only [List.mem_cons, List.not_mem_nil, or_false] at h
    rcases h with rfl | rfl | rfl <;>
      exact skips_scalar ⟨rfl, by decide, by decide⟩ (by rintro (_ | _) <;> decide) fun _ _ => rfl
  | number h =>
    obtain ⟨d, more, rfl, hd⟩ := h.exists_digit
    apply skips_scalar (isFirst_of_isDigit hd)
    · rintro (_ | _) rfl <;> contradiction
    · intro rest hends
      rw [skipScalar_of_isDigit hd]
      exact skipNumber_append hends h
  | negative h =>
    apply skips_scalar ⟨rfl, by decide, by decide⟩
    · rintro (_ | _) <;> decide
    · intro rest hends
      exact skipNumber_append hends h
  | text h =>
    apply skips_scalar isFirst_quote
    · rintro (_ | _) <;> decide
    · intro rest _
      rw [List.append_assoc]
      apply skipString_append h
      simp only [List.length_append]
      omega
  | empty frame h => exact .empty h
  | full h ih => exact .full h ih
  | spaced hbefore h hafter ih => exact .spaced hbefore ih hafter
  | element h ih =>
    obtain ⟨k, hk, hspaced⟩ := ih
    exact ⟨k, hk, fun fuel frames => hspaced fuel .list frames⟩
  | member hbefore hkey hbetween h ih => exact .member hbefore hkey hbetween ih
  | last h ih => exact .last ih
  | more h hothers ih ihothers => exact .more ih ihothers

/-- A value is skipped. -/
theorem skipValue_append {ws cs rest : List Char} (hws : Blanks ws) (h : Derives .value cs)
    (hends : Ends rest) : skipValue (ws ++ (cs ++ rest)) = .ok rest := by
  obtain ⟨k, hk, hskip⟩ := h.skips
  obtain ⟨fuel, hfuel⟩ : ∃ fuel, 2 * (ws ++ (cs ++ rest)).length + 2 = fuel + 1 + k := by
    simp only [List.length_append]
    exact ⟨2 * (ws.length + (cs.length + rest.length)) + 1 - k, by omega⟩
  have hvalue := hskip (fuel + 1) [] rest rest hends rfl
  rw [skipValue, hfuel]
  exact skipNested_append hws hvalue

end PathSeal.Json
