import Mathlib.Algebra.GroupWithZero.Nat
import PathSeal.Retry

/-!
# PathSeal.Proofs.Retry

A run of attempts in closed form. The answers that an operation gives one after
another (`answer`) fix which attempt is the last one (`lastAttempt`) and when each
is through (`elapsed`). If the last one is through before the deadline, the run is
that attempt's outcome (`run_of_not_reached`); otherwise it is cut off
(`run_of_reached`).

The loop counts its attempts down and the answers are counted up. So the
inductions are on the attempts left, for any number of attempts already made.

A run depends on nothing but the answers (`goAlike_of_answer`). So an operation may
take notes, which say where the attempts of a run start (`starts_eq`).
-/

namespace PathSeal.RetryPolicy

open Kms (Timed)

/-! ## Attempts one after another -/

section

variable (operation : StateM σ (Timed (Except Envelope.Error α))) (s : σ)

/-- The state after a number of attempts. -/
def stateAfter : Nat → σ
  | 0 => s
  | n + 1 => (operation (stateAfter n)).2

/-- The answer to an attempt. Attempts are counted from 1. -/
def answer (n : Nat) : Timed (Except Envelope.Error α) :=
  (operation (stateAfter operation s (n - 1))).1

theorem operation_stateAfter (n : Nat) :
    operation (stateAfter operation s n) =
      (answer operation s (n + 1), stateAfter operation s (n + 1)) := rfl

/-- Whether an outcome is a fault that another attempt may get past. -/
def isTransient : Except Envelope.Error α → Bool
  | .error e => e.isRetryable
  | .ok _ => false

variable (policy : RetryPolicy)

/-- When the attempt after the first `n` starts. -/
def started : Nat → Nat
  | 0 => 0
  | n + 1 => started n + (answer operation s (n + 1)).millis + (policy.delayAfter (n + 1)).ticks

/-- When an attempt is through. -/
def elapsed (n : Nat) : Nat :=
  started operation s policy (n - 1) + (answer operation s n).millis

/-- The events of the first `n` attempts, if others follow them. -/
def eventsOf (op : String) : Nat → List Log.Event
  | 0 => []
  | n + 1 =>
    match (answer operation s (n + 1)).value with
    | .error e => eventsOf op n ++ [policy.retryEvent op (n + 1) e]
    | .ok _ => eventsOf op n

/-- An attempt starts no earlier than those before it are through. -/
theorem elapsed_le_started (n : Nat) :
    elapsed operation s policy (n + 1) ≤ started operation s policy (n + 1) := by
  rw [elapsed, Nat.add_sub_cancel, started]
  exact Nat.le_add_right _ _

theorem started_mono {m n : Nat} (h : m ≤ n) :
    started operation s policy m ≤ started operation s policy n := by
  induction h with
  | refl => exact Nat.le_refl _
  | step _ ih =>
    rw [started, Nat.add_assoc]
    exact Nat.le_trans ih (Nat.le_add_right _ _)

/-- An attempt is through no earlier than it starts. -/
theorem started_le_elapsed {m n : Nat} (h : m < n) :
    started operation s policy m ≤ elapsed operation s policy n := by
  have hle := started_mono operation s policy (Nat.le_sub_one_of_lt h)
  exact Nat.le_trans hle (Nat.le_add_right _ _)

/-- An attempt is through after all attempts up to it and the waits between them. -/
theorem elapsed_eq_sum (n : Nat) :
    elapsed operation s policy (n + 1) =
      ((List.range' 1 (n + 1)).map fun i => (answer operation s i).millis).sum +
        ((List.range' 1 n).map fun i => (policy.delayAfter i).ticks).sum := by
  have hconcat (m : Nat) : List.range' 1 (m + 1) = List.range' 1 m ++ [m + 1] := by
    rw [List.range'_1_concat, Nat.add_comm 1 m]
  induction n with
  | zero => simp [elapsed, started]
  | succ n ih =>
    rw [elapsed, Nat.add_sub_cancel] at ih ⊢
    rw [started, ih, hconcat (n + 1), hconcat n]
    simp only [List.map_append, List.sum_append, List.map_singleton, List.sum_singleton]
    omega

end

/-! ## The last attempt -/

section

variable (policy : RetryPolicy) (transient : Nat → Bool)

/-- How many attempts there can be; there is always a first one. -/
def mostAttempts : Nat := max 1 policy.maxAttempts.toNat

/-- The last attempt, given which of them fail with a transient fault: the first that does not, or
else the last that there can be. -/
def lastAttempt : Nat :=
  ((List.range' 1 policy.mostAttempts).find? fun i => !transient i).getD policy.mostAttempts

theorem mostAttempts_pos : 0 < policy.mostAttempts := Nat.le_max_left ..

/-- The first attempt and those that may follow it. -/
theorem mostAttempts_eq : policy.mostAttempts = 0 + 1 + (policy.maxAttempts.toNat - 1) := by
  rw [mostAttempts]
  omega

/-- The last attempt is one of those that there can be. -/
theorem lastAttempt_mem :
    0 < policy.lastAttempt transient ∧ policy.lastAttempt transient ≤ policy.mostAttempts := by
  rw [lastAttempt]
  cases h : (List.range' 1 policy.mostAttempts).find? fun i => !transient i with
  | none => exact ⟨policy.mostAttempts_pos, Nat.le_refl _⟩
  | some found =>
    have hmem := List.mem_range'_1.mp (List.mem_of_find?_eq_some h)
    rw [Option.getD_some]
    omega

/-- All attempts before the last one fail with a transient fault. -/
theorem transient_of_lt_lastAttempt {i : Nat} (hpos : 0 < i)
    (h : i < policy.lastAttempt transient) : transient i := by
  have hmem : i ∈ List.range' 1 policy.mostAttempts := by
    have hle := (policy.lastAttempt_mem transient).2
    exact List.mem_range'_1.mpr (by omega)
  rw [lastAttempt] at h
  cases hfind : (List.range' 1 policy.mostAttempts).find? fun i => !transient i with
  | none =>
    have hall := List.find?_eq_none.mp hfind i hmem
    simpa using hall
  | some found =>
    rw [hfind, Option.getD_some] at h
    have hbefore := (List.find?_range'_eq_some.mp hfind).2.2 i hpos h
    simpa using hbefore

/-- The last attempt does not fail with a transient fault, unless no more could follow. -/
theorem lastAttempt_eq_or_not_transient :
    policy.lastAttempt transient = policy.mostAttempts ∨
      transient (policy.lastAttempt transient) = false := by
  rw [lastAttempt]
  cases hfind : (List.range' 1 policy.mostAttempts).find? fun i => !transient i with
  | none => exact .inl rfl
  | some found =>
    have hfound := List.find?_some hfind
    exact .inr (by simpa using hfound)

/-- A last attempt is known by the attempts up to it. -/
theorem lastAttempt_eq_of {n : Nat} (hpos : 0 < n) (hle : n ≤ policy.mostAttempts)
    (hbefore : ∀ i, 0 < i → i < n → transient i)
    (hfinal : n = policy.mostAttempts ∨ transient n = false) :
    policy.lastAttempt transient = n := by
  obtain ⟨hlastPos, hlastLe⟩ := policy.lastAttempt_mem transient
  rcases Nat.lt_trichotomy (policy.lastAttempt transient) n with hlt | heq | hgt
  · have hlast := hbefore _ hlastPos hlt
    rcases policy.lastAttempt_eq_or_not_transient transient with hmost | hnot
    · omega
    · rw [hlast] at hnot
      contradiction
  · exact heq
  · have hn := policy.transient_of_lt_lastAttempt transient hpos hgt
    rcases hfinal with hmost | hnot
    · omega
    · rw [hn] at hnot
      contradiction

end

/-! ## Runs -/

theorem not_reached_of_le {deadline : Option Nat} {m n : Nat} (h : m ≤ n)
    (hn : reached deadline n = false) : reached deadline m = false := by
  cases deadline with
  | none => rfl
  | some limit =>
    rw [reached, decide_eq_false_iff_not, Nat.not_le] at hn ⊢
    exact Nat.lt_of_le_of_lt h hn

section

variable (operation : StateM σ (Timed (Except Envelope.Error α))) (s : σ) (policy : RetryPolicy)
  (deadline : Option Nat) (op : String) (left n : Nat) (events : List Log.Event)

/-- An attempt that is not through before the deadline is cut off. -/
theorem attempts_of_reached (h : reached deadline (elapsed operation s policy (n + 1))) :
    policy.attempts deadline op operation left (n + 1) (started operation s policy n) events
        (stateAfter operation s n) =
      (cutOff deadline (elapsed operation s policy (n + 1)) events,
        stateAfter operation s (n + 1)) := by
  rw [elapsed, Nat.add_sub_cancel] at h ⊢
  unfold attempts
  simp only [bind, StateT.bind, operation_stateAfter, if_pos h]
  rfl

/-- An attempt that no other can follow, or that none needs to follow, gives its outcome. -/
theorem attempts_of_final
    (hreach : reached deadline (elapsed operation s policy (n + 1)) = false)
    (hfinal : left = 0 ∨ isTransient (answer operation s (n + 1)).value = false) :
    policy.attempts deadline op operation left (n + 1) (started operation s policy n) events
        (stateAfter operation s n) =
      (⟨some (answer operation s (n + 1)).value, elapsed operation s policy (n + 1), events⟩,
        stateAfter operation s (n + 1)) := by
  rw [elapsed, Nat.add_sub_cancel] at hreach ⊢
  unfold attempts
  simp only [bind, StateT.bind, operation_stateAfter, hreach, Bool.false_eq_true, if_false]
  cases left with
  | zero => rfl
  | succ left =>
    cases hvalue : (answer operation s (n + 1)).value with
    | ok a => rfl
    | error e =>
      have hnot : e.isRetryable = false := by simpa [hvalue, isTransient] using hfinal
      simp only [hnot, Bool.false_eq_true, if_false]
      rfl

/-- After a transient fault the next attempt is made, unless the deadline comes first. -/
theorem attempts_of_transient {e : Envelope.Error}
    (hreach : reached deadline (elapsed operation s policy (n + 1)) = false)
    (hvalue : (answer operation s (n + 1)).value = .error e) (he : e.isRetryable) :
    policy.attempts deadline op operation (left + 1) (n + 1) (started operation s policy n) events
        (stateAfter operation s n) =
      let events := events ++ [policy.retryEvent op (n + 1) e]
      if reached deadline (started operation s policy (n + 1)) then
        (cutOff deadline (started operation s policy (n + 1)) events,
          stateAfter operation s (n + 1))
      else
        policy.attempts deadline op operation left (n + 2) (started operation s policy (n + 1))
          events (stateAfter operation s (n + 1)) := by
  rw [elapsed, Nat.add_sub_cancel] at hreach
  rw [started]
  conv => lhs; unfold attempts
  simp only [bind, StateT.bind, operation_stateAfter, hreach, Bool.false_eq_true, if_false, hvalue,
    he, if_true]
  split
  · rfl
  · rfl

theorem isTransient_iff (outcome : Except Envelope.Error α) :
    isTransient outcome ↔ ∃ e, outcome = .error e ∧ e.isRetryable := by
  cases outcome with
  | ok a => simp [isTransient]
  | error e => simp [isTransient]

/-- What holds of attempts that end, and of attempts that go on if it holds of the rest, holds of
all attempts. -/
theorem attempts_induction {motive : (left n : Nat) → List Log.Event → Prop}
    (cut : ∀ left n events, reached deadline (elapsed operation s policy (n + 1)) →
      motive left n events)
    (final : ∀ left n events, reached deadline (elapsed operation s policy (n + 1)) = false →
      (left = 0 ∨ isTransient (answer operation s (n + 1)).value = false) → motive left n events)
    (transient : ∀ left n events e,
      reached deadline (elapsed operation s policy (n + 1)) = false →
      (answer operation s (n + 1)).value = .error e → e.isRetryable →
      motive left (n + 1) (events ++ [policy.retryEvent op (n + 1) e]) →
      motive (left + 1) n events) :
    motive left n events := by
  induction left generalizing n events with
  | zero =>
    cases hreach : reached deadline (elapsed operation s policy (n + 1)) with
    | true => exact cut 0 n events hreach
    | false => exact final 0 n events hreach (.inl rfl)
  | succ left ih =>
    cases hreach : reached deadline (elapsed operation s policy (n + 1)) with
    | true => exact cut (left + 1) n events hreach
    | false =>
      cases htransient : isTransient (answer operation s (n + 1)).value with
      | false => exact final (left + 1) n events hreach (.inr htransient)
      | true =>
        obtain ⟨e, hvalue, he⟩ := (isTransient_iff _).mp htransient
        exact transient left n events e hreach hvalue he (ih (n + 1) _)

/-- The remaining attempts give the outcome of the last one, if that is through in time. -/
theorem attempts_of_last {last : Nat} (hn : n < last) (hlast : last ≤ n + 1 + left)
    (hbefore : ∀ i, n < i → i < last → isTransient (answer operation s i).value)
    (hfinal : last = n + 1 + left ∨ isTransient (answer operation s last).value = false)
    (hreach : reached deadline (elapsed operation s policy last) = false) :
    policy.attempts deadline op operation left (n + 1) (started operation s policy n)
        (eventsOf operation s policy op n) (stateAfter operation s n) =
      (⟨some (answer operation s last).value, elapsed operation s policy last,
        eventsOf operation s policy op (last - 1)⟩, stateAfter operation s last) := by
  induction left generalizing n with
  | zero =>
    obtain rfl : last = n + 1 := by omega
    rw [Nat.add_sub_cancel]
    exact attempts_of_final operation s policy deadline op 0 n _ hreach (.inl rfl)
  | succ left ih =>
    by_cases hnext : last = n + 1
    · subst hnext
      have hnot : isTransient (answer operation s (n + 1)).value = false := by
        rcases hfinal with hcount | hnot
        · omega
        · exact hnot
      rw [Nat.add_sub_cancel]
      exact attempts_of_final operation s policy deadline op (left + 1) n _ hreach (.inr hnot)
    · have hlt : n + 1 < last := by omega
      obtain ⟨e, hvalue, he⟩ := (isTransient_iff _).mp (hbefore (n + 1) (by omega) hlt)
      have hstarted := not_reached_of_le (started_le_elapsed operation s policy hlt) hreach
      have helapsed := not_reached_of_le (elapsed_le_started operation s policy n) hstarted
      have hevents : eventsOf operation s policy op (n + 1) =
          eventsOf operation s policy op n ++ [policy.retryEvent op (n + 1) e] := by
        rw [eventsOf, hvalue]
      rw [attempts_of_transient operation s policy deadline op left n _ helapsed hvalue he]
      simp only [hstarted, Bool.false_eq_true, if_false]
      rw [← hevents]
      refine ih (n + 1) hlt (by omega) ?_ ?_
      · intro i hi
        exact hbefore i (by omega)
      · rw [show n + 1 + 1 + left = n + 1 + (left + 1) by omega]
        exact hfinal

/-- The remaining attempts give nothing, if one of them is not through before the deadline. -/
theorem attempts_of_not_in_time {last : Nat} (hn : n < last) (hlast : last ≤ n + 1 + left)
    (hbefore : ∀ i, n < i → i < last → isTransient (answer operation s i).value)
    (hreach : reached deadline (elapsed operation s policy last)) :
    (policy.attempts deadline op operation left (n + 1) (started operation s policy n) events
      (stateAfter operation s n)).1.outcome = none := by
  induction left generalizing n events with
  | zero =>
    obtain rfl : last = n + 1 := by omega
    rw [attempts_of_reached operation s policy deadline op 0 n events hreach]
    rfl
  | succ left ih =>
    by_cases helapsed : reached deadline (elapsed operation s policy (n + 1))
    · rw [attempts_of_reached operation s policy deadline op (left + 1) n events helapsed]
      rfl
    · rw [Bool.not_eq_true] at helapsed
      have hlt : n + 1 < last := by
        have hne : last ≠ n + 1 := by
          rintro rfl
          rw [helapsed] at hreach
          contradiction
        omega
      obtain ⟨e, hvalue, he⟩ := (isTransient_iff _).mp (hbefore (n + 1) (by omega) hlt)
      rw [attempts_of_transient operation s policy deadline op left n events helapsed hvalue he]
      dsimp only
      split
      · rfl
      · refine ih (n + 1) _ hlt (by omega) ?_
        intro i hi
        exact hbefore i (by omega)

end

section

variable (operation : StateM σ (Timed (Except Envelope.Error α))) (s : σ) (policy : RetryPolicy)
  (deadline : Option Nat) (op : String)

/-- The last attempt that an operation gets. -/
def lastOf : Nat :=
  policy.lastAttempt fun i => isTransient (answer operation s i).value

theorem lastOf_mem :
    0 < lastOf operation s policy ∧ lastOf operation s policy ≤ policy.mostAttempts :=
  policy.lastAttempt_mem fun i => isTransient (answer operation s i).value

theorem isTransient_of_lt_lastOf {i : Nat} (hpos : 0 < i) (h : i < lastOf operation s policy) :
    isTransient (answer operation s i).value :=
  policy.transient_of_lt_lastAttempt (fun i => isTransient (answer operation s i).value) hpos h

/-- A run whose last attempt is through in time gives its outcome. -/
theorem run_of_not_reached
    (h : reached deadline (elapsed operation s policy (lastOf operation s policy)) = false) :
    let last := lastOf operation s policy
    policy.run deadline op operation s =
      (⟨some (answer operation s last).value, elapsed operation s policy last,
        eventsOf operation s policy op (last - 1)⟩, stateAfter operation s last) := by
  intro last
  obtain ⟨hpos, hle⟩ := lastOf_mem operation s policy
  rw [mostAttempts_eq] at hle
  refine attempts_of_last operation s policy deadline op (policy.maxAttempts.toNat - 1) 0 hpos hle
    ?_ ?_ h
  · intro i hi hlt
    exact isTransient_of_lt_lastOf operation s policy hi hlt
  · rw [← mostAttempts_eq]
    exact policy.lastAttempt_eq_or_not_transient
      fun i => isTransient (answer operation s i).value

/-- A run is cut off if one of its attempts is not through in time. -/
theorem run_of_not_in_time {n : Nat} (hpos : 0 < n) (hle : n ≤ policy.mostAttempts)
    (hbefore : ∀ i, 0 < i → i < n → isTransient (answer operation s i).value)
    (h : reached deadline (elapsed operation s policy n)) :
    (policy.run deadline op operation s).1.outcome = none := by
  rw [mostAttempts_eq] at hle
  exact attempts_of_not_in_time operation s policy deadline op (policy.maxAttempts.toNat - 1) 0 []
    hpos hle hbefore h

/-- A run whose last attempt is not through in time is cut off. -/
theorem run_of_reached
    (h : reached deadline (elapsed operation s policy (lastOf operation s policy))) :
    (policy.run deadline op operation s).1.outcome = none := by
  obtain ⟨hpos, hle⟩ := lastOf_mem operation s policy
  refine run_of_not_in_time operation s policy deadline op hpos hle ?_ h
  intro i hi hlt
  exact isTransient_of_lt_lastOf operation s policy hi hlt

/-- The outcome of a run is one that the operation gave. -/
theorem outcome_run {outcome : Except Envelope.Error α}
    (h : (policy.run deadline op operation s).1.outcome = some outcome) :
    ∃ n, (operation (stateAfter operation s n)).1.value = outcome := by
  cases hreach : reached deadline (elapsed operation s policy (lastOf operation s policy)) with
  | true =>
    rw [run_of_reached operation s policy deadline op hreach] at h
    contradiction
  | false =>
    rw [run_of_not_reached operation s policy deadline op hreach] at h
    exact ⟨_, Option.some.inj h⟩

/-- An operation that comes to an end at once, for good, is not tried again. -/
theorem run_of_now {outcome : Except Envelope.Error α} (hdeadline : reached deadline 0 = false)
    (h : (operation s).1 = .now outcome) (hfinal : isTransient outcome = false) :
    policy.run deadline op operation s = (⟨some outcome, 0, []⟩, (operation s).2) := by
  have hanswer : answer operation s 1 = .now outcome := h
  have hlast : lastOf operation s policy = 1 := by
    refine policy.lastAttempt_eq_of _ Nat.one_pos policy.mostAttempts_pos ?_ (.inr ?_)
    · intro i hpos hlt
      omega
    · rw [hanswer]
      exact hfinal
  have helapsed : elapsed operation s policy 1 = 0 := by
    rw [elapsed, hanswer]
    rfl
  have hrun := run_of_not_reached operation s policy deadline op
    (by rw [hlast, helapsed]; exact hdeadline)
  rw [hrun, hlast, hanswer, helapsed]
  rfl

end

/-! ## Operations that answer alike -/

section

variable (operation : StateM σ (Timed (Except Envelope.Error α))) (s : σ)
  (operation' : StateM τ (Timed (Except Envelope.Error α))) (s' : τ) (policy : RetryPolicy)
  (deadline : Option Nat) (op : String) (left n : Nat) (events : List Log.Event)

/-- From the attempt after the first `n` on, two operations are tried equally often, and both runs
come to the same. -/
def GoAlike : Prop :=
  ∃ last run,
    policy.attempts deadline op operation left (n + 1) (started operation s policy n) events
        (stateAfter operation s n) = (run, stateAfter operation s last) ∧
      policy.attempts deadline op operation' left (n + 1) (started operation' s' policy n) events
        (stateAfter operation' s' n) = (run, stateAfter operation' s' last)

variable {operation} {s} {operation'} {s'} {deadline} {op} {left} {n} {events}
  (hsame : ∀ n, answer operation' s' n = answer operation s n)

include hsame

theorem started_congr (n : Nat) :
    started operation' s' policy n = started operation s policy n := by
  induction n with
  | zero => rfl
  | succ n ih => rw [started, started, ih, hsame]

theorem elapsed_congr (n : Nat) :
    elapsed operation' s' policy n = elapsed operation s policy n := by
  rw [elapsed, elapsed, started_congr policy hsame, hsame]

/-- If an attempt at one of two operations with the same answers is not followed by another one,
neither is that at the other. -/
theorem goAlike_of_final
    (hreach : reached deadline (elapsed operation s policy (n + 1)) = false)
    (hfinal : left = 0 ∨ isTransient (answer operation s (n + 1)).value = false) :
    GoAlike operation s operation' s' policy deadline op left n events := by
  have helapsed := elapsed_congr policy hsame (n + 1)
  have hfirst := attempts_of_final operation s policy deadline op left n events hreach hfinal
  have hsecond := attempts_of_final operation' s' policy deadline op left n events
    (helapsed ▸ hreach) (hsame (n + 1) ▸ hfinal)
  rw [helapsed, hsame] at hsecond
  exact ⟨_, _, hfirst, hsecond⟩

/-- If it is cut off, so is that at the other. -/
theorem goAlike_of_reached
    (hreach : reached deadline (elapsed operation s policy (n + 1))) :
    GoAlike operation s operation' s' policy deadline op left n events := by
  have helapsed := elapsed_congr policy hsame (n + 1)
  have hfirst := attempts_of_reached operation s policy deadline op left n events hreach
  have hsecond := attempts_of_reached operation' s' policy deadline op left n events
    (helapsed ▸ hreach)
  rw [helapsed] at hsecond
  exact ⟨_, _, hfirst, hsecond⟩

/-- Operations with the same answers are tried equally often, and come to the same. -/
theorem goAlike_of_answer (left n : Nat) (events : List Log.Event) :
    GoAlike operation s operation' s' policy deadline op left n events := by
  induction left, n, events using attempts_induction operation s policy deadline op with
  | cut left n events hreach => exact goAlike_of_reached policy hsame hreach
  | final left n events hreach hfinal => exact goAlike_of_final policy hsame hreach hfinal
  | transient left n events e hreach hvalue he ih =>
    have helapsed := elapsed_congr policy hsame (n + 1)
    have hstarted := started_congr policy hsame (n + 1)
    have hfirst := attempts_of_transient operation s policy deadline op left n events hreach
      hvalue he
    have hsecond := attempts_of_transient operation' s' policy deadline op left n events
      (helapsed ▸ hreach) (hsame (n + 1) ▸ hvalue) he
    rw [GoAlike, hstarted] at ih
    rw [GoAlike, hfirst, hsecond, hstarted]
    dsimp only
    split
    · exact ⟨n + 1, _, rfl, rfl⟩
    · exact ih

end

/-! ## Where attempts start -/

/-- The same operation, with a record of the states that it is started in. -/
def noted (operation : StateM σ α) : StateM (σ × List σ) α :=
  fun s => ((operation s.1).1, ((operation s.1).2, s.2 ++ [s.1]))

section

variable (operation : StateM σ (Timed (Except Envelope.Error α))) (policy : RetryPolicy)
  (deadline : Option Nat) (op : String) (s : σ)

/-- The states that the attempts of a run start in. -/
def starts : List σ :=
  (policy.run deadline op (noted operation) (s, [])).2.2

/-- The record of some attempts. -/
theorem stateAfter_noted (n : Nat) :
    stateAfter (noted operation) (s, []) n =
      (stateAfter operation s n, (List.range n).map (stateAfter operation s)) := by
  induction n with
  | zero => rfl
  | succ n ih =>
    rw [stateAfter, ih, List.range_succ, List.map_append]
    rfl

/-- The attempts of a run start in one state after another; the run ends in the state after the last
of them. -/
theorem starts_eq :
    ∃ n, starts operation policy deadline op s = (List.range n).map (stateAfter operation s) ∧
      (policy.run deadline op operation s).2 = stateAfter operation s n := by
  have hsame (n : Nat) : answer (noted operation) (s, []) n = answer operation s n := by
    rw [answer, answer, stateAfter_noted]
    rfl
  obtain ⟨last, run, hrun, hnoted⟩ : GoAlike operation s (noted operation) (s, []) policy deadline
    op (policy.maxAttempts.toNat - 1) 0 [] := goAlike_of_answer policy hsame ..
  have hstarts : policy.run deadline op (noted operation) (s, []) =
      (run, stateAfter (noted operation) (s, []) last) := hnoted
  have hstate : policy.run deadline op operation s = (run, stateAfter operation s last) := hrun
  rw [starts, hstarts, stateAfter_noted, hstate]
  exact ⟨last, rfl, rfl⟩

end

end PathSeal.RetryPolicy
