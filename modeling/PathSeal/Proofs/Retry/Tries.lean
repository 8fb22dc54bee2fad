import PathSeal.Proofs.Retry

/-!
# PathSeal.Proofs.Retry.Tries

How often a run tries its operation (`tries`), and what holds of every run, however it
ends: its only events are those of attempts that are followed by another, and it is cut
off no earlier than its deadline (`run_regular`), with all its tries started in time
(`tries_of_outcome_none`).

Two runs whose operations answer alike are alike in both respects (`run_congr`). It may
be that only a part of each answer is alike, such as its length. Then so is the same
part of the runs, since an attempt is retried for its fault and not for its value
(`run_through`).
-/

namespace PathSeal.RetryPolicy

open Kms (Timed)

/-! ## How often -/

section

variable (operation : StateM σ (Timed (Except Envelope.Error α))) (policy : RetryPolicy)
  (deadline : Option Nat) (op : String) (s : σ)

/-- How often a run tries its operation. -/
def tries : Nat := (starts operation policy deadline op s).length

theorem state_run :
    (policy.run deadline op operation s).2 =
      stateAfter operation s (tries operation policy deadline op s) := by
  obtain ⟨n, hstarts, hend⟩ := starts_eq operation policy deadline op s
  rw [tries, hstarts, List.length_map, List.length_range]
  exact hend

theorem answer_noted (n : Nat) : answer (noted operation) (s, []) n = answer operation s n := by
  rw [answer, answer, stateAfter_noted]
  rfl

/-- There are as many starts as the operation with a record is tried. -/
theorem tries_of_run_noted {run : Run α} {n : Nat}
    (h : policy.run deadline op (noted operation) (s, []) =
      (run, stateAfter (noted operation) (s, []) n)) :
    tries operation policy deadline op s = n := by
  rw [tries, starts, h, stateAfter_noted, List.length_map, List.length_range]

/-- Operations with the same answers have the same last attempt. -/
theorem lastOf_congr {operation' : StateM τ (Timed (Except Envelope.Error α))} {s' : τ}
    (hsame : ∀ n, answer operation' s' n = answer operation s n) :
    lastOf operation' s' policy = lastOf operation s policy := by
  simp only [lastOf, hsame]

/-- If the last attempt is through in time, it is the last try. -/
theorem tries_of_not_reached
    (h : reached deadline (elapsed operation s policy (lastOf operation s policy)) = false) :
    tries operation policy deadline op s = lastOf operation s policy := by
  have hsame := answer_noted operation s
  have hlast := lastOf_congr operation policy s hsame
  have hrun := run_of_not_reached (noted operation) (s, []) policy deadline op
    (by rw [hlast, elapsed_congr policy hsame]; exact h)
  exact (tries_of_run_noted operation policy deadline op s hrun).trans hlast

/-- Operations with the same answers come to the same, in as many tries. -/
theorem run_congr {operation' : StateM τ (Timed (Except Envelope.Error α))} {s' : τ}
    (hsame : ∀ n, answer operation' s' n = answer operation s n) :
    (policy.run deadline op operation' s').1 = (policy.run deadline op operation s).1 ∧
      tries operation' policy deadline op s' = tries operation policy deadline op s := by
  constructor
  · obtain ⟨n, run, hrun, hrun'⟩ : GoAlike operation s operation' s' policy deadline op
      (policy.maxAttempts.toNat - 1) 0 [] := goAlike_of_answer policy hsame ..
    have hfirst : policy.run deadline op operation s = (run, stateAfter operation s n) := hrun
    have hsecond : policy.run deadline op operation' s' = (run, stateAfter operation' s' n) :=
      hrun'
    rw [hfirst, hsecond]
  · have hnoted (n : Nat) : answer (noted operation') (s', []) n =
        answer (noted operation) (s, []) n := by
      rw [answer_noted, answer_noted, hsame]
    obtain ⟨n, run, hrun, hrun'⟩ : GoAlike (noted operation) (s, []) (noted operation') (s', [])
      policy deadline op (policy.maxAttempts.toNat - 1) 0 [] := goAlike_of_answer policy hnoted ..
    have hfirst := tries_of_run_noted operation policy deadline op s hrun
    have hsecond := tries_of_run_noted operation' policy deadline op s' hrun'
    rw [hfirst, hsecond]

end

/-! ## Operations in step -/

section

variable {operation : StateM σ (Timed (Except Envelope.Error α))} {s : σ}
  {operation' : StateM τ (Timed (Except Envelope.Error α))} {s' : τ} (Match : σ → τ → Prop)
  (hs : Match s s')
  (hstep : ∀ s s', Match s s' →
    (operation' s').1 = (operation s).1 ∧ Match (operation s).2 (operation' s').2)

include hs hstep

/-- Two operations that keep their states matching do so however often they are tried. -/
theorem match_stateAfter (n : Nat) :
    Match (stateAfter operation s n) (stateAfter operation' s' n) := by
  induction n with
  | zero => exact hs
  | succ n ih => exact (hstep _ _ ih).2

theorem answer_of_match (n : Nat) : answer operation' s' n = answer operation s n :=
  (hstep _ _ (match_stateAfter Match hs hstep (n - 1))).1

end

/-! ## However it ends -/

/-- What holds of every run: its events are those of attempts that are followed by another, and it
is cut off no earlier than its deadline. -/
structure Regular (policy : RetryPolicy) (deadline : Option Nat) (op : String) (run : Run α) :
    Prop where
  events : ∀ event ∈ run.events, ∃ attempt e, event = policy.retryEvent op attempt e
  millis : run.outcome = none → run.millis = deadline.getD run.millis

section

variable (operation : StateM σ (Timed (Except Envelope.Error α))) (policy : RetryPolicy)
  (deadline : Option Nat) (op : String) (s : σ)

/-- A run that is cut off ends at its deadline. -/
theorem regular_cutOff {events : List Log.Event} (millis : Nat)
    (h : ∀ event ∈ events, ∃ attempt e, event = policy.retryEvent op attempt e) :
    policy.Regular deadline op (cutOff deadline millis events : Run α) := by
  refine ⟨h, ?_⟩
  intro _
  rw [cutOff]
  cases deadline with
  | none => rfl
  | some limit => rfl

/-- From any attempt on a run goes on as it should. -/
theorem attempts_regular (left n : Nat) {events : List Log.Event}
    (h : ∀ event ∈ events, ∃ attempt e, event = policy.retryEvent op attempt e) :
    policy.Regular deadline op
      (policy.attempts deadline op operation left (n + 1) (started operation s policy n) events
        (stateAfter operation s n)).1 := by
  induction left, n, events using attempts_induction operation s policy deadline op with
  | cut left n events hreach =>
    rw [attempts_of_reached operation s policy deadline op left n events hreach]
    exact regular_cutOff policy deadline op _ h
  | final left n events hreach hfinal =>
    rw [attempts_of_final operation s policy deadline op left n events hreach hfinal]
    exact ⟨h, nofun⟩
  | transient left n events e hreach hvalue he ih =>
    rw [attempts_of_transient operation s policy deadline op left n events hreach hvalue he]
    have hevents : ∀ event ∈ events ++ [policy.retryEvent op (n + 1) e],
        ∃ attempt e, event = policy.retryEvent op attempt e := by
      intro event hmem
      rcases List.mem_append.mp hmem with hmem | hmem
      · exact h event hmem
      · exact ⟨n + 1, e, List.mem_singleton.mp hmem⟩
    dsimp only
    split
    · exact regular_cutOff policy deadline op _ hevents
    · exact ih hevents

/-- Every run goes as it should. -/
theorem run_regular :
    policy.Regular deadline op (policy.run deadline op operation s).1 :=
  attempts_regular operation policy deadline op s _ 0 nofun

/-- A run that takes less than the time until its deadline is not cut off. -/
theorem not_reached_of_millis {limit : Nat}
    (h : (policy.run (some limit) op operation s).1.millis < limit) :
    reached (some limit) (elapsed operation s policy (lastOf operation s policy)) = false := by
  refine Bool.eq_false_iff.mpr fun hreach => ?_
  have hnone := run_of_reached operation s policy (some limit) op hreach
  have hmillis := (run_regular operation policy (some limit) op s).millis hnone
  rw [hmillis, Option.getD_some] at h
  exact Nat.lt_irrefl limit h

/-- Attempts that are cut off are all started in time, but for the first. The last of them is not
through in time, or another one could not be started in time after it. -/
theorem exists_of_attempts_none (left n : Nat) (events : List Log.Event)
    (h : (policy.attempts deadline op operation left (n + 1) (started operation s policy n) events
      (stateAfter operation s n)).1.outcome = none) :
    ∃ last, (policy.attempts deadline op operation left (n + 1) (started operation s policy n)
        events (stateAfter operation s n)).2 = stateAfter operation s last ∧
      n < last ∧ last ≤ n + 1 + left ∧
      (∀ i, n < i → i < last → reached deadline (started operation s policy i) = false) ∧
      (reached deadline (elapsed operation s policy last) ∨
        last < n + 1 + left ∧ reached deadline (started operation s policy last)) := by
  induction left, n, events using attempts_induction operation s policy deadline op with
  | cut left n events hreach =>
    rw [attempts_of_reached operation s policy deadline op left n events hreach]
    exact ⟨n + 1, rfl, by omega, by omega, fun i hi hlt => by omega, .inl hreach⟩
  | final left n events hreach hfinal =>
    rw [attempts_of_final operation s policy deadline op left n events hreach hfinal] at h
    contradiction
  | transient left n events e hreach hvalue he ih =>
    rw [attempts_of_transient operation s policy deadline op left n events hreach hvalue he] at h ⊢
    dsimp only at h ⊢
    cases hstarted : reached deadline (started operation s policy (n + 1)) with
    | true =>
      rw [if_pos rfl]
      exact ⟨n + 1, rfl, by omega, by omega, fun i hi hlt => by omega, .inr ⟨by omega, hstarted⟩⟩
    | false =>
      rw [hstarted, if_neg Bool.false_ne_true] at h
      rw [if_neg Bool.false_ne_true]
      obtain ⟨last, hstate, hlt, hle, hbefore, hlate⟩ := ih h
      refine ⟨last, hstate, by omega, by omega, ?_, ?_⟩
      · intro i hi hilt
        rcases Nat.lt_or_eq_of_le (Nat.succ_le_of_lt hi) with hnext | rfl
        · exact hbefore i hnext hilt
        · exact hstarted
      · rw [show n + 1 + (left + 1) = n + 1 + 1 + left by omega]
        exact hlate

/-- So it is with a run that is cut off and its tries. -/
theorem tries_of_outcome_none (h : (policy.run deadline op operation s).1.outcome = none) :
    let n := tries operation policy deadline op s
    0 < n ∧ n ≤ policy.mostAttempts ∧
      (∀ i, 0 < i → i < n → reached deadline (started operation s policy i) = false) ∧
      (reached deadline (elapsed operation s policy n) ∨
        n < policy.mostAttempts ∧ reached deadline (started operation s policy n)) := by
  have hsame := answer_noted operation s
  have hcongr := (run_congr operation policy deadline op s hsame).1
  obtain ⟨last, hstate, hpos, hle, hbefore, hlate⟩ := exists_of_attempts_none (noted operation)
    policy deadline op (s, []) (policy.maxAttempts.toNat - 1) 0 [] (by rw [← h, ← hcongr]; rfl)
  simp only [started_congr policy hsame, elapsed_congr policy hsame, ← mostAttempts_eq]
    at hbefore hle hlate
  have htries : tries operation policy deadline op s = last :=
    tries_of_run_noted operation policy deadline op s (Prod.ext rfl hstate)
  rw [htries]
  exact ⟨hpos, hle, hbefore, hlate⟩

theorem not_reached_of_outcome {outcome : Except Envelope.Error α}
    (h : (policy.run deadline op operation s).1.outcome = some outcome) :
    reached deadline (elapsed operation s policy (lastOf operation s policy)) = false := by
  refine Bool.eq_false_iff.mpr fun hreach => ?_
  rw [run_of_reached operation s policy deadline op hreach] at h
  contradiction

/-- The outcome of a run is what one of its tries comes to. -/
theorem exists_of_outcome {outcome : Except Envelope.Error α}
    (h : (policy.run deadline op operation s).1.outcome = some outcome) :
    ∃ s', (operation s').1.value = outcome := by
  have hreach := not_reached_of_outcome operation policy deadline op s h
  rw [run_of_not_reached operation s policy deadline op hreach] at h
  exact ⟨_, Option.some.inj h⟩

end

/-! ## A part of the answers -/

@[simp] theorem Run.logging_nil (run : Run α) : run.logging [] = run := by
  rw [Run.logging, List.append_nil]

/-- The same operation with its value changed. -/
def through (f : α → β) (operation : StateM σ (Timed (Except Envelope.Error α))) :
    StateM σ (Timed (Except Envelope.Error β)) :=
  fun s => (⟨(operation s).1.value.map f, (operation s).1.millis⟩, (operation s).2)

section

variable (f : α → β) (operation : StateM σ (Timed (Except Envelope.Error α)))
  (policy : RetryPolicy) (deadline : Option Nat) (op : String) (s : σ)

theorem stateAfter_through (n : Nat) :
    stateAfter (through f operation) s n = stateAfter operation s n := by
  induction n with
  | zero => rfl
  | succ n ih =>
    rw [stateAfter, ih]
    rfl

theorem answer_through (n : Nat) :
    answer (through f operation) s n =
      ⟨(answer operation s n).value.map f, (answer operation s n).millis⟩ := by
  rw [answer, stateAfter_through]
  rfl

theorem started_through (n : Nat) :
    started (through f operation) s policy n = started operation s policy n := by
  induction n with
  | zero => rfl
  | succ n ih => rw [started, started, ih, answer_through]

theorem elapsed_through (n : Nat) :
    elapsed (through f operation) s policy n = elapsed operation s policy n := by
  rw [elapsed, elapsed, started_through, answer_through]

/-- From any attempt on a run goes on in the same way, since an attempt is followed by another for
its fault and not for its value. -/
theorem attempts_through (left n : Nat) (events : List Log.Event) :
    policy.attempts deadline op (through f operation) left (n + 1)
        (started (through f operation) s policy n) events (stateAfter (through f operation) s n) =
      let result := policy.attempts deadline op operation left (n + 1)
        (started operation s policy n) events (stateAfter operation s n)
      (result.1.map f, result.2) := by
  have hanswer := answer_through f operation s
  have helapsed := elapsed_through f operation policy s
  induction left, n, events using attempts_induction operation s policy deadline op with
  | cut left n events hreach =>
    have hreach' := hreach
    rw [← helapsed] at hreach'
    rw [attempts_of_reached operation s policy deadline op left n events hreach,
      attempts_of_reached (through f operation) s policy deadline op left n events hreach',
      stateAfter_through, helapsed]
    rfl
  | final left n events hreach hfinal =>
    have hfinal' : left = 0 ∨
        isTransient (answer (through f operation) s (n + 1)).value = false := by
      rw [hanswer]
      cases hvalue : (answer operation s (n + 1)).value with
      | ok value => exact .inr rfl
      | error e =>
        rw [hvalue] at hfinal
        exact hfinal
    have hreach' := hreach
    rw [← helapsed] at hreach'
    rw [attempts_of_final operation s policy deadline op left n events hreach hfinal,
      attempts_of_final (through f operation) s policy deadline op left n events hreach' hfinal',
      stateAfter_through, helapsed, hanswer]
    rfl
  | transient left n events e hreach hvalue he ih =>
    have hvalue' : (answer (through f operation) s (n + 1)).value = .error e := by
      rw [hanswer, hvalue]
      rfl
    have hreach' := hreach
    rw [← helapsed] at hreach'
    rw [attempts_of_transient operation s policy deadline op left n events hreach hvalue he,
      attempts_of_transient (through f operation) s policy deadline op left n events hreach' hvalue'
        he]
    rw [started_through, stateAfter_through] at ih ⊢
    dsimp only
    split
    · rfl
    · exact ih

/-- A run comes to the same, but for its value. -/
theorem run_through :
    policy.run deadline op (through f operation) s =
      let result := policy.run deadline op operation s
      (result.1.map f, result.2) :=
  attempts_through f operation policy deadline op s _ 0 []

theorem tries_through :
    tries (through f operation) policy deadline op s = tries operation policy deadline op s := by
  have hnoted : noted (through f operation) = through f (noted operation) := rfl
  rw [tries, tries, starts, starts, hnoted, run_through]

end

/-- If a part of the answers of two operations is the same, then so is that part of their runs, and
they are tried equally often. -/
theorem run_map_congr (f : α → β) {operation : StateM σ (Timed (Except Envelope.Error α))} {s : σ}
    {operation' : StateM τ (Timed (Except Envelope.Error α))} {s' : τ} (policy : RetryPolicy)
    (deadline : Option Nat) (op : String)
    (hsame : ∀ n, answer (through f operation') s' n = answer (through f operation) s n) :
    (policy.run deadline op operation' s').1.map f = (policy.run deadline op operation s).1.map f ∧
      tries operation' policy deadline op s' = tries operation policy deadline op s := by
  have h := run_congr (through f operation) policy deadline op s hsame
  rw [run_through, run_through, tries_through, tries_through] at h
  exact h

end PathSeal.RetryPolicy
