import PathSeal.Json.Lexical

/-!
# PathSeal.Proofs.Json.Numbers

Blanks and numbers. A number has no closing mark: it is read or skipped as such only if
what follows cannot go on with it (`Ends`), which nothing that may follow a value inside
a text can.

Every number of the grammar is skipped (`skipNumber_append`), and a whole number is read
back from its decimal digits (`number_toDigits`).
-/

namespace PathSeal.Json

/-! ## Blanks -/

/-- Blanks only. -/
def Blanks (ws : List Char) : Prop :=
  ∀ c ∈ ws, isBlank c

theorem blanks_nil : Blanks [] :=
  fun _ h => absurd h List.not_mem_nil

theorem skipBlanks_cons {c : Char} (h : isBlank c = false) (cs : List Char) :
    skipBlanks (c :: cs) = c :: cs := by
  rw [skipBlanks, List.dropWhile_cons_of_neg (by rw [h]; exact Bool.false_ne_true)]

theorem skipBlanks_append {ws : List Char} (h : Blanks ws) (cs : List Char) :
    skipBlanks (ws ++ cs) = skipBlanks cs :=
  List.dropWhile_append_of_pos h

/-! ## Numbers -/

/-- Nothing that a number may go on with comes next. -/
def Ends (rest : List Char) : Prop :=
  ∀ c ∈ rest.head?, isDigit c = false ∧ c ≠ '.' ∧ c ≠ 'e' ∧ c ≠ 'E'

theorem ends_append {ws rest : List Char} (hws : Blanks ws) (h : Ends rest) :
    Ends (ws ++ rest) := by
  cases ws with
  | nil => exact h
  | cons c ws =>
    have hc : isBlank c := hws c List.mem_cons_self
    simp only [isBlank, Bool.or_eq_true, beq_iff_eq] at hc
    rcases hc with ((rfl | rfl) | rfl) | rfl <;> simp [Ends, isDigit]

theorem ends_comma (rest : List Char) : Ends (',' :: rest) := by
  simp [Ends, isDigit]

/-- Decimal digits, at least one. -/
def IsDigits (ds : List Char) : Prop :=
  ds ≠ [] ∧ ∀ d ∈ ds, isDigit d

/-- The whole part of a number, which has no leading zeros. -/
inductive IsWhole : List Char → Prop where
  | zero : IsWhole ['0']
  | digits {d : Char} {ds : List Char} (hne : d ≠ '0') (h : IsDigits (d :: ds)) : IsWhole (d :: ds)

/-- The fraction of a number, if it has one. -/
inductive IsFraction : List Char → Prop where
  | none : IsFraction []
  | digits {ds : List Char} (h : IsDigits ds) : IsFraction ('.' :: ds)

/-- The exponent of a number, if it has one. -/
inductive IsExponent : List Char → Prop where
  | none : IsExponent []
  | digits {letter : Char} {sign ds : List Char} (hletter : letter ∈ ['e', 'E'])
    (hsign : sign ∈ [[], ['+'], ['-']]) (h : IsDigits ds) : IsExponent (letter :: (sign ++ ds))

/-- A number without its sign. -/
inductive IsUnsigned : List Char → Prop where
  | parts {whole fraction exponent : List Char} (hwhole : IsWhole whole)
    (hfraction : IsFraction fraction) (hexponent : IsExponent exponent) :
    IsUnsigned (whole ++ (fraction ++ exponent))

theorem dropWhile_isDigit {ds rest : List Char} (hds : ∀ d ∈ ds, isDigit d)
    (hrest : ∀ c ∈ rest.head?, isDigit c = false) : (ds ++ rest).dropWhile isDigit = rest := by
  rw [List.dropWhile_append_of_pos hds]
  cases rest with
  | nil => rfl
  | cons c rest => rw [List.dropWhile_cons_of_neg (by simp [hrest c rfl])]

section

variable {rest : List Char} (hends : Ends rest)

include hends

theorem skipFraction_of_ends : skipFraction rest = .ok rest := by
  cases rest with
  | nil => rfl
  | cons c rest =>
    obtain ⟨-, hpoint, hlower, hupper⟩ := hends c rfl
    unfold skipFraction
    split <;> simp_all

/-- An exponent is passed over. -/
theorem skipExponent_append {sign ds : List Char} (hsign : sign ∈ [[], ['+'], ['-']])
    (h : IsDigits ds) : skipExponent (sign ++ ds ++ rest) = .ok rest := by
  obtain ⟨hne, hall⟩ := h
  obtain ⟨d, ds, rfl⟩ := List.exists_cons_of_ne_nil hne
  have hd : isDigit d := hall d List.mem_cons_self
  have hdrop : (ds ++ rest).dropWhile isDigit = rest :=
    dropWhile_isDigit (fun c hc => hall c (List.mem_cons_of_mem d hc)) (fun c hc => (hends c hc).1)
  have hplus : d ≠ '+' := by rintro rfl; contradiction
  have hminus : d ≠ '-' := by rintro rfl; contradiction
  simp only [List.mem_cons, List.not_mem_nil, or_false] at hsign
  rcases hsign with rfl | rfl | rfl <;> simp [skipExponent, hd, hdrop, hplus, hminus]

theorem isDigit_head_exponent {exponent : List Char} (h : IsExponent exponent) :
    ∀ c ∈ (exponent ++ rest).head?, isDigit c = false := by
  cases h with
  | none => exact fun c hc => (hends c hc).1
  | digits hletter hsign h =>
    simp only [List.mem_cons, List.not_mem_nil, or_false] at hletter
    rcases hletter with rfl | rfl <;> simp [isDigit]

/-- Fraction and exponent are passed over. -/
theorem skipFraction_append {fraction exponent : List Char} (hfraction : IsFraction fraction)
    (hexponent : IsExponent exponent) :
    skipFraction (fraction ++ (exponent ++ rest)) = .ok rest := by
  cases hfraction with
  | none =>
    cases hexponent with
    | none => exact skipFraction_of_ends hends
    | digits hletter hsign h =>
      simp only [List.mem_cons, List.not_mem_nil, or_false] at hletter
      rcases hletter with rfl | rfl <;> exact skipExponent_append hends hsign h
  | @digits ds h =>
    obtain ⟨hne, hall⟩ := h
    obtain ⟨d, ds, rfl⟩ := List.exists_cons_of_ne_nil hne
    have hd : isDigit d := hall d List.mem_cons_self
    have hdrop : (d :: (ds ++ (exponent ++ rest))).dropWhile isDigit = exponent ++ rest :=
      dropWhile_isDigit hall (isDigit_head_exponent hends hexponent)
    show skipFraction ('.' :: d :: (ds ++ (exponent ++ rest))) = .ok rest
    rw [skipFraction, if_pos hd, hdrop]
    cases hexponent with
    | none =>
      rw [List.nil_append]
      split
      · exact absurd rfl (hends 'e' rfl).2.2.1
      · exact absurd rfl (hends 'E' rfl).2.2.2
      · rfl
    | digits hletter hsign h =>
      have hexponent := skipExponent_append hends hsign h
      simp only [List.mem_cons, List.not_mem_nil, or_false] at hletter
      rcases hletter with rfl | rfl <;> exact hexponent

/-- A number without its sign is passed over. -/
theorem skipNumber_append {cs : List Char} (h : IsUnsigned cs) :
    skipNumber (cs ++ rest) = .ok rest := by
  obtain @⟨whole, fraction, exponent, hwhole, hfraction, hexponent⟩ := h
  have htail := skipFraction_append hends hfraction hexponent
  have hhead : ∀ c ∈ (fraction ++ (exponent ++ rest)).head?, isDigit c = false := by
    cases hfraction with
    | none => exact isDigit_head_exponent hends hexponent
    | digits h => simp [isDigit]
  rw [List.append_assoc, List.append_assoc]
  generalize fraction ++ (exponent ++ rest) = tail at htail hhead
  cases hwhole with
  | zero =>
    cases tail with
    | nil =>
      rw [← htail]
      rfl
    | cons c tail =>
      have hc : ¬isDigit c := by simp [hhead c rfl]
      show skipNumber ('0' :: c :: tail) = .ok rest
      rw [skipNumber, if_pos rfl, if_neg hc, htail]
  | @digits d ds hne h =>
    have hd : isDigit d := h.2 d List.mem_cons_self
    have hdrop : (ds ++ tail).dropWhile isDigit = tail :=
      dropWhile_isDigit (fun c hc => h.2 c (List.mem_cons_of_mem d hc)) hhead
    simp [skipNumber, hne, hd, hdrop, htail]

end

/-! ## Reading whole numbers -/

/-- The digits of a number begin with zero only if it is zero. Taking them gives the number back, as
long as it stays exact. -/
theorem exists_toDigits {n : Nat} (hn : n ≤ maxWhole) :
    ∃ d ds, Nat.toDigits 10 n = d :: ds ∧ isDigit d ∧ (d = '0' → n = 0 ∧ ds = []) ∧
      ∀ rest, takeWhole (digit d) 0 (ds ++ rest) = takeWhole n ds.length rest := by
  induction n using Nat.strongRecOn with
  | ind n ih =>
    have hdigit : ∀ k < 10, isDigit (Nat.digitChar k) ∧ digit (Nat.digitChar k) = k := by decide
    by_cases hlt : n < 10
    · refine ⟨Nat.digitChar n, [], Nat.toDigits_of_lt_base hlt, (hdigit n hlt).1, ?_, ?_⟩
      · intro hzero
        exact ⟨Nat.digitChar_eq_zero.mp hzero, rfl⟩
      · intro rest
        rw [(hdigit n hlt).2]
        rfl
    · obtain ⟨d, ds, hds, hd, hzero, htake⟩ := ih (n / 10) (by omega) (by omega)
      obtain ⟨hlast, hvalue⟩ := hdigit (n % 10) (by omega)
      have hn10 : n / 10 * 10 + n % 10 = n := by omega
      refine ⟨d, ds ++ [Nat.digitChar (n % 10)], ?_, hd, ?_, ?_⟩
      · rw [Nat.toDigits_of_base_le (by decide) (by omega), hds]
        rfl
      · intro h
        obtain ⟨hn, -⟩ := hzero h
        omega
      · intro rest
        rw [List.append_assoc, htake, List.singleton_append, takeWhole, hvalue, hn10,
          if_pos ⟨hlast, hn⟩, List.length_append]
        rfl

section

variable {rest : List Char} (hends : Ends rest)

include hends

/-- A whole number ends where nothing goes on with it. -/
theorem afterWhole_of_ends (n : Nat) : number.afterWhole false n rest = .ok (.natural n, rest) := by
  cases rest with
  | nil => rfl
  | cons c rest =>
    obtain ⟨-, hpoint, hlower, hupper⟩ := hends c rfl
    rw [number.afterWhole]
    · rfl
    all_goals
      rintro cs hcs
      obtain ⟨rfl, -⟩ := List.cons.inj hcs
      contradiction

/-- A whole number is read back from its digits. -/
theorem number_toDigits {n : Nat} (hn : n ≤ maxWhole) :
    ∃ d ds, Nat.toDigits 10 n = d :: ds ∧ isDigit d ∧
      number false (d :: (ds ++ rest)) = .ok (.natural n, rest) := by
  obtain ⟨d, ds, hds, hd, hzero, htake⟩ := exists_toDigits hn
  have hnone : rest.takeWhile isDigit = [] := by
    cases rest with
    | nil => rfl
    | cons c rest => rw [List.takeWhile_cons_of_neg (by simp [(hends c rfl).1])]
  have hstop : takeWhole n ds.length rest = (n, ds.length, rest) := by
    cases rest with
    | nil => rfl
    | cons c rest => rw [takeWhole, if_neg (by simp [(hends c rfl).1])]
  refine ⟨d, ds, hds, hd, ?_⟩
  by_cases h : d = '0'
  · obtain ⟨rfl, rfl⟩ := hzero h
    have hend := afterWhole_of_ends hends 0
    rw [h, List.nil_append]
    cases rest with
    | nil => exact hend
    | cons c rest =>
      have hc : ¬isDigit c := by simp [(hends c rfl).1]
      show (if isDigit c then failAt .invalidNumber (c :: rest) else _) = _
      rw [if_neg hc, hend]
  · have hend := afterWhole_of_ends hends n
    simp [number, h, hd, htake, hstop, hnone, hend]

end

end PathSeal.Json
