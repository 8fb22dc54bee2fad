import Mathlib.Order.Bounds.Defs
import PathSeal.Proofs.Retry.Tries

/-!
# PathSeal.Proofs.Retry.Acts

What a run does, one thing after another: it calls its operation, logs that another
attempt follows, and sleeps. A list of such acts says more than a run keeps, since of
the sleeps only the time is left there. Both agree: a run is what its acts come to on
the clock, whatever the deadline (`run_eq_perform`).

The acts are listed with a counter of 32 bits, which would wrap around. It never does,
so the list can be written down (`acts_eq`): a call, a warning and a sleep for each
attempt but the last, and the last call.
-/

namespace PathSeal.RetryPolicy

open Kms (Timed)

/-! ## Acts -/

/-- One thing that a run does. -/
inductive Act (α : Type) where
  /-- The operation is called and gives an answer. -/
  | call (answer : Timed (Except Envelope.Error α))
  | log (event : Log.Event)
  | sleep (wait : Duration)

/-- Below a limit the counter of attempts does not wrap around. -/
theorem toNat_succ_of_lt {attempt most : UInt32} (h : attempt < most) :
    (attempt + 1).toNat = attempt.toNat + 1 := by
  have hlt : attempt.toNat < most.toNat := h
  have hmost : most.toNat < UInt32.size := most.toNat_lt_size
  have hfits : attempt.toNat + 1 < UInt32.size := by omega
  rw [UInt32.toNat_add]
  exact Nat.mod_eq_of_lt hfits

/-- What attempts do from a given one on, and the state they end in. Another attempt follows if this
one fails with a transient fault and the counter is below the most attempts. -/
def acts (policy : RetryPolicy) (op : String)
    (operation : StateM σ (Timed (Except Envelope.Error α))) (attempt : UInt32) (s : σ) :
    List (Act α) × σ :=
  match (operation s).1.value with
  | .ok _ => ([.call (operation s).1], (operation s).2)
  | .error e =>
    if e.isRetryable ∧ attempt < policy.maxAttempts then
      let later := policy.acts op operation (attempt + 1) (operation s).2
      (.call (operation s).1 :: .log (policy.retryEvent op attempt.toNat e) ::
        .sleep (policy.delayAfter attempt.toNat) :: later.1, later.2)
    else ([.call (operation s).1], (operation s).2)
termination_by policy.maxAttempts.toNat - attempt.toNat
decreasing_by
  rename_i h
  have hlt : attempt.toNat < policy.maxAttempts.toNat := h.2
  have hsucc := toNat_succ_of_lt h.2
  omega

/-- What acts come to on the clock, with what there is so far. When the deadline comes, they are cut
off. -/
def perform (deadline : Option Nat) :
    List (Act α) → (outcome : Option (Except Envelope.Error α)) → (millis : Nat) →
      List Log.Event → Run α
  | [], outcome, millis, events => ⟨outcome, millis, events⟩
  | .call answer :: acts, _, millis, events =>
    if reached deadline (millis + answer.millis) then
      cutOff deadline (millis + answer.millis) events
    else perform deadline acts (some answer.value) (millis + answer.millis) events
  | .log event :: acts, outcome, millis, events =>
    perform deadline acts outcome millis (events ++ [event])
  | .sleep wait :: acts, outcome, millis, events =>
    if reached deadline (millis + wait.ticks) then cutOff deadline (millis + wait.ticks) events
    else perform deadline acts outcome (millis + wait.ticks) events

section

variable (operation : StateM σ (Timed (Except Envelope.Error α))) (policy : RetryPolicy)
  (op : String) {attempt : UInt32} (s : σ)

/-- Every attempt begins with its call. -/
theorem exists_acts_eq_call (attempt : UInt32) :
    ∃ later, (policy.acts op operation attempt s).1 = .call (operation s).1 :: later := by
  rw [acts]
  split
  · exact ⟨[], rfl⟩
  · split
    · exact ⟨_, rfl⟩
    · exact ⟨[], rfl⟩

/-- An attempt that no other follows is nothing but its call. -/
theorem acts_of_final
    (h : policy.maxAttempts ≤ attempt ∨ isTransient (operation s).1.value = false) :
    policy.acts op operation attempt s = ([.call (operation s).1], (operation s).2) := by
  rw [acts]
  cases hvalue : (operation s).1.value with
  | ok value => rfl
  | error e =>
    have hnot : ¬(e.isRetryable ∧ attempt < policy.maxAttempts) := by
      rintro ⟨he, hlt⟩
      rcases h with hmost | hfinal
      · exact absurd hlt (UInt32.not_lt.mpr hmost)
      · simp [hvalue, isTransient, he] at hfinal
    dsimp only
    rw [if_neg hnot]

/-- A transient fault is logged and slept on, before the next attempt. -/
theorem acts_of_transient {e : Envelope.Error} (hlt : attempt < policy.maxAttempts)
    (hvalue : (operation s).1.value = .error e) (he : e.isRetryable) :
    policy.acts op operation attempt s =
      let later := policy.acts op operation (attempt + 1) (operation s).2
      (.call (operation s).1 :: .log (policy.retryEvent op attempt.toNat e) ::
        .sleep (policy.delayAfter attempt.toNat) :: later.1, later.2) := by
  rw [acts, hvalue]
  dsimp only
  rw [if_pos ⟨he, hlt⟩]

end

/-! ## On the clock -/

section

variable (operation : StateM σ (Timed (Except Envelope.Error α))) (s : σ) (policy : RetryPolicy)
  (deadline : Option Nat) (op : String)

/-- From any attempt on a run is what its acts come to. The attempts are counted up by the counter
and down by what is left of them. -/
theorem attempts_eq_perform (left n : Nat) (events : List Log.Event) {attempt : UInt32}
    (hattempt : attempt.toNat = n + 1) (hleft : policy.maxAttempts.toNat - (n + 1) = left)
    (outcome : Option (Except Envelope.Error α)) :
    (policy.attempts deadline op operation left (n + 1) (started operation s policy n) events
      (stateAfter operation s n)).1 =
      perform deadline (policy.acts op operation attempt (stateAfter operation s n)).1 outcome
        (started operation s policy n) events := by
  have helapsed (n : Nat) : started operation s policy n + (answer operation s (n + 1)).millis =
      elapsed operation s policy (n + 1) := rfl
  have hcall (n : Nat) : (operation (stateAfter operation s n)).1 = answer operation s (n + 1) :=
    rfl
  induction left, n, events using attempts_induction operation s policy deadline op
    generalizing attempt outcome with
  | cut left n events hreach =>
    obtain ⟨later, hacts⟩ :=
      exists_acts_eq_call operation policy op (stateAfter operation s n) attempt
    rw [attempts_of_reached operation s policy deadline op left n events hreach, hacts, hcall,
      perform, helapsed, if_pos hreach]
  | final left n events hreach hfinal =>
    have hfinal' : policy.maxAttempts ≤ attempt ∨
        isTransient (operation (stateAfter operation s n)).1.value = false := by
      refine hfinal.imp_left fun hleft' => ?_
      rw [UInt32.le_iff_toNat_le]
      omega
    rw [attempts_of_final operation s policy deadline op left n events hreach hfinal,
      acts_of_final operation policy op _ hfinal', hcall, perform, helapsed, hreach]
    rfl
  | transient left n events e hreach hvalue he ih =>
    have hlt : attempt < policy.maxAttempts := by
      rw [UInt32.lt_iff_toNat_lt]
      omega
    have hsucc := toNat_succ_of_lt hlt
    have hstarted : elapsed operation s policy (n + 1) + (policy.delayAfter (n + 1)).ticks =
        started operation s policy (n + 1) := rfl
    have hacts := acts_of_transient operation policy op (stateAfter operation s n) hlt hvalue he
    rw [attempts_of_transient operation s policy deadline op left n events hreach hvalue he, hacts,
      hattempt, hcall]
    simp only [perform, helapsed, hreach, hstarted, Bool.false_eq_true, if_false]
    split
    · rfl
    · exact ih (by omega) (by omega) _

/-- A run is what its acts come to. -/
theorem run_eq_perform :
    (policy.run deadline op operation s).1 =
      perform deadline (policy.acts op operation 1 s).1 none 0 [] :=
  attempts_eq_perform operation s policy deadline op _ 0 [] rfl rfl none

end

/-! ## One after another -/

/-- What is done for an attempt that fails and is followed by another one. -/
def retried (policy : RetryPolicy) (op : String) (answer : Nat → Timed (Except Envelope.Error α))
    (fault : Nat → Envelope.Error) (n : Nat) : List (Act α) :=
  [.call (answer n), .log (policy.retryEvent op n (fault n)), .sleep (policy.delayAfter n)]

section

variable (operation : StateM σ (Timed (Except Envelope.Error α))) (s : σ) (policy : RetryPolicy)
  (op : String) {fault : Nat → Envelope.Error}

/-- From any attempt on, all attempts but the last are retried. -/
theorem acts_eq {n last : Nat} {attempt : UInt32} (hattempt : attempt.toNat = n + 1)
    (hn : n < last) (hlast : last = lastOf operation s policy)
    (hfault : ∀ i, n < i → i < last → (answer operation s i).value = .error (fault i)) :
    policy.acts op operation attempt (stateAfter operation s n) =
      ((List.range' (n + 1) (last - (n + 1))).flatMap
          (policy.retried op (answer operation s) fault) ++ [.call (answer operation s last)],
        stateAfter operation s last) := by
  have hmost : policy.mostAttempts = max 1 policy.maxAttempts.toNat := rfl
  obtain ⟨left, hleft⟩ : ∃ left, last = n + 1 + left := ⟨last - (n + 1), by omega⟩
  induction left generalizing n attempt with
  | zero =>
    obtain rfl : last = n + 1 := hleft
    have hfinal : policy.maxAttempts ≤ attempt ∨
        isTransient (operation (stateAfter operation s n)).1.value = false := by
      rcases policy.lastAttempt_eq_or_not_transient
        fun i => isTransient (answer operation s i).value with hlimit | hnot
      · have hlimit' : lastOf operation s policy = policy.mostAttempts := hlimit
        rw [UInt32.le_iff_toNat_le]
        exact .inl (by omega)
      · have hnot' : isTransient (answer operation s (lastOf operation s policy)).value = false :=
          hnot
        rw [← hlast] at hnot'
        exact .inr hnot'
    rw [acts_of_final operation policy op _ hfinal, Nat.sub_self]
    rfl
  | succ left ih =>
    have hnext : n + 1 < last := by omega
    have hlt : attempt < policy.maxAttempts := by
      have hle := (lastOf_mem operation s policy).2
      rw [UInt32.lt_iff_toNat_lt]
      omega
    have hvalue := hfault (n + 1) (by omega) hnext
    have he : (fault (n + 1)).isRetryable := by
      have htransient := isTransient_of_lt_lastOf operation s policy (i := n + 1) (by omega)
        (hlast ▸ hnext)
      rw [hvalue] at htransient
      exact htransient
    have hcounter : (attempt + 1).toNat = n + 1 + 1 := by rw [toNat_succ_of_lt hlt, hattempt]
    have hlater := ih hcounter hnext (fun i hi => hfault i (by omega)) (by omega)
    have hacts := acts_of_transient operation policy op (stateAfter operation s n) hlt hvalue he
    have hstate : (operation (stateAfter operation s n)).2 = stateAfter operation s (n + 1) := rfl
    rw [hacts, hstate, hlater, hattempt,
      show last - (n + 1) = last - (n + 1 + 1) + 1 by omega, List.range'_succ, List.flatMap_cons]
    rfl

theorem exists_fault :
    ∃ fault : Nat → Envelope.Error, ∀ n, 0 < n → n < lastOf operation s policy →
      (answer operation s n).value = .error (fault n) := by
  have hfaults : ∀ n, ∃ e, 0 < n → n < lastOf operation s policy →
      (answer operation s n).value = .error e := by
    intro n
    by_cases hn : 0 < n ∧ n < lastOf operation s policy
    · obtain ⟨e, hvalue, -⟩ :=
        (isTransient_iff _).mp (isTransient_of_lt_lastOf operation s policy hn.1 hn.2)
      exact ⟨e, fun _ _ => hvalue⟩
    · exact ⟨.internal "", fun h0 hlt => absurd ⟨h0, hlt⟩ hn⟩
  exact Classical.axiomOfChoice hfaults

/-- A run retries all attempts before its last one, and ends with the call of that. -/
theorem acts_eq_retried
    (hfault : ∀ n, 0 < n → n < lastOf operation s policy →
      (answer operation s n).value = .error (fault n)) :
    policy.acts op operation 1 s =
      ((List.range' 1 (lastOf operation s policy - 1)).flatMap
          (policy.retried op (answer operation s) fault) ++
            [.call (answer operation s (lastOf operation s policy))],
        stateAfter operation s (lastOf operation s policy)) :=
  acts_eq operation s policy op (n := 0) rfl (lastOf_mem operation s policy).1 rfl hfault

/-- The events of attempts that fail and are followed by others. -/
theorem eventsOf_eq_map {n : Nat}
    (hfault : ∀ i, 0 < i → i ≤ n → (answer operation s i).value = .error (fault i)) :
    eventsOf operation s policy op n =
      (List.range' 1 n).map fun i => policy.retryEvent op i (fault i) := by
  induction n with
  | zero => rfl
  | succ n ih =>
    have hvalue := hfault (n + 1) (by omega) (by omega)
    have hevents := ih fun i hpos hle => hfault i hpos (by omega)
    rw [eventsOf, hvalue, hevents, List.range'_1_concat, List.map_append, Nat.add_comm 1 n]
    rfl

/-- Only an unavailable service is worth another attempt. -/
theorem isTransient_eq_false_iff (outcome : Except Envelope.Error α) :
    isTransient outcome = false ↔ ∀ detail, outcome ≠ .error (.kmsUnavailable detail) := by
  cases outcome with
  | ok value => simp [isTransient]
  | error e => cases e <;> simp [isTransient, Envelope.Error.isRetryable]

/-- The last attempt is the first that can be followed by no other, or that fails for no unavailable
service. -/
theorem isLeast_lastOf :
    IsLeast {n | 0 < n ∧ (n = max 1 policy.maxAttempts.toNat ∨
      ∀ detail, (answer operation s n).value ≠ .error (.kmsUnavailable detail))}
      (lastOf operation s policy) := by
  simp only [← isTransient_eq_false_iff]
  refine ⟨⟨(lastOf_mem operation s policy).1, policy.lastAttempt_eq_or_not_transient _⟩, ?_⟩
  rintro n ⟨hpos, hfinal⟩
  refine Nat.le_of_not_lt fun hn => ?_
  have htransient := isTransient_of_lt_lastOf operation s policy hpos hn
  rcases hfinal with hmost | hnot
  · have hle : lastOf operation s policy ≤ max 1 policy.maxAttempts.toNat :=
      (lastOf_mem operation s policy).2
    omega
  · rw [hnot] at htransient
    contradiction

end

/-- A warning that an attempt has failed with a fault. -/
def Warns (event : Log.Event) (attempt : Nat) (fault : Envelope.Error) : Prop :=
  event.level = .warn ∧ event.fields.lookup "attempt" = some (.count attempt) ∧
    event.fields.lookup "error" = some (.text fault.message)

/-- **A run makes just the calls, the warnings and the sleeps that its policy asks for.** Its last
attempt is the first that fails for no unavailable service, or else the last that there can be. The
operation is called once for each attempt up to it, and its outcome is returned as it is. Each
attempt before it is warned of, with its number and its fault, and then slept on for the wait of
that number; nothing is done after the last call. So say the acts, whose counter has 32 bits, and
with any deadline the run is what these come to on the clock. -/
theorem run_acts (policy : RetryPolicy) (op : String)
    (operation : StateM σ (Timed (Except Envelope.Error α))) (s : σ) :
    let answer := answer operation s
    let run := policy.run none op operation s
    let acts := (policy.acts op operation 1 s).1
    ∃ k, IsLeast {n | 0 < n ∧ (n = max 1 policy.maxAttempts.toNat ∨
        ∀ detail, (answer n).value ≠ .error (.kmsUnavailable detail))} k ∧
      k < UInt32.size ∧
      starts operation policy none op s = (List.range k).map (stateAfter operation s) ∧
      run.1.outcome = some (answer k).value ∧
      ∃ (fault : Nat → Envelope.Error) (event : Nat → Log.Event),
        (∀ n, 0 < n → n < k →
          (answer n).value = .error (fault n) ∧ Warns (event n) n (fault n)) ∧
        acts = (List.range' 1 (k - 1)).flatMap
          (fun n => [.call (answer n), .log (event n), .sleep (policy.delayAfter n)]) ++
            [.call (answer k)] ∧
        run.1.events = (List.range' 1 (k - 1)).map event ∧
        ∀ deadline, (policy.run deadline op operation s).1 = perform deadline acts none 0 [] := by
  intro answer run acts
  let k := lastOf operation s policy
  obtain ⟨hpos, hle⟩ := lastOf_mem operation s policy
  have hfits : k < UInt32.size := by
    have hmost : policy.maxAttempts.toNat < UInt32.size := policy.maxAttempts.toNat_lt_size
    have hone : 1 < UInt32.size := by decide
    exact Nat.lt_of_le_of_lt hle (Nat.max_lt.mpr ⟨hone, hmost⟩)
  have hrun := run_of_not_reached operation s policy none op rfl
  obtain ⟨fault, hfault⟩ := exists_fault operation s policy
  have hstarts : starts operation policy none op s =
      (List.range k).map (stateAfter operation s) := by
    obtain ⟨n, hn, -⟩ := starts_eq operation policy none op s
    have htries : tries operation policy none op s = k :=
      tries_of_not_reached operation policy none op s rfl
    rw [tries, hn, List.length_map, List.length_range] at htries
    rw [hn, htries]
  have hacts := acts_eq_retried operation s policy op hfault
  have hbefore : ∀ n, 0 < n → n ≤ k - 1 → (answer n).value = .error (fault n) := by
    intro n h0 hn
    exact hfault n h0 (by omega)
  have hevents := eventsOf_eq_map operation s policy op hbefore
  refine ⟨k, isLeast_lastOf operation s policy, hfits, hstarts, congrArg (·.1.outcome) hrun,
    fault, fun n => policy.retryEvent op n (fault n), ?_, congrArg (·.1) hacts,
    (congrArg (·.1.events) hrun).trans hevents,
    fun deadline => run_eq_perform operation s policy deadline op⟩
  intro n h0 hn
  exact ⟨hfault n h0 hn, rfl, rfl, rfl⟩

end PathSeal.RetryPolicy
