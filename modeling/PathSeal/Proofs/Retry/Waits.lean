import PathSeal.Proofs.Duration
import PathSeal.Proofs.Retry.Acts

/-!
# PathSeal.Proofs.Retry.Waits

How long a run waits, and what it logs of that. The wait doubles from one attempt to the
next, up to a limit (`factor_succ`), and never decreases (`toNanos_delayAfter_mono`). An
event notes its milliseconds in 64 bits, and so only what is left of them beyond
(`logs_retryEvent_iff`).

So the log is right exactly if the waits fit. The first that does not fit is logged as
less than the one before it (`mod_lt_of_overflow`). Before a deadline no such wait comes
up, because a wait is slept before it doubles (`exists_events_perform`).
-/

namespace PathSeal.RetryPolicy

open Kms (Timed)

/-! ## Waits -/

/-- How many times over the base delay is waited for after an attempt. -/
def factor (n : Nat) : Nat :=
  1 <<< min (n - 1) maxDoublings

/-- From one attempt to the next the wait doubles, or stays as it is. -/
theorem factor_succ (n : Nat) :
    factor (n + 2) = 2 * factor (n + 1) ∨ factor (n + 2) = factor (n + 1) := by
  rw [factor, factor, Nat.add_sub_cancel, show n + 2 - 1 = n + 1 from rfl]
  by_cases hn : n < maxDoublings
  · have hnext : min (n + 1) maxDoublings = min n maxDoublings + 1 := by omega
    rw [hnext, Nat.shiftLeft_succ]
    exact .inl rfl
  · have hsame : min (n + 1) maxDoublings = min n maxDoublings := by omega
    exact .inr (congrArg _ hsame)

/-- It is never more than 1024 times as long as the first. -/
theorem factor_le (n : Nat) : factor n ≤ 1024 := by
  have hall : ∀ k ≤ maxDoublings, 1 <<< k ≤ 1024 := by decide
  exact hall _ (Nat.min_le_right ..)

/-- It never gets less. -/
theorem factor_mono {m n : Nat} (h : m ≤ n) : factor m ≤ factor n := by
  induction h with
  | refl => exact Nat.le_refl _
  | @step n _ ih =>
    refine Nat.le_trans ih ?_
    cases n with
    | zero => exact Nat.le_refl _
    | succ n =>
      show factor (n + 1) ≤ factor (n + 2)
      rcases factor_succ n with hnext | hnext <;> omega

section

variable (policy : RetryPolicy)

/-- A wait in nanoseconds. -/
theorem toNanos_delayAfter (n : Nat) :
    (policy.delayAfter n).toNanos =
      min (policy.baseDelay.toNanos * factor n) Duration.longest.toNanos :=
  Duration.toNanos_scale policy.baseDelay (factor n)

theorem toNanos_delayAfter_one : (policy.delayAfter 1).toNanos = policy.baseDelay.toNanos := by
  rw [toNanos_delayAfter, show factor 1 = 1 from rfl, Nat.mul_one]
  exact Nat.min_eq_left policy.baseDelay.toNanos_le_longest

theorem toNanos_delayAfter_mono {m n : Nat} (h : m ≤ n) :
    (policy.delayAfter m).toNanos ≤ (policy.delayAfter n).toNanos := by
  have hfactor := Nat.mul_le_mul_left policy.baseDelay.toNanos (factor_mono h)
  rw [toNanos_delayAfter, toNanos_delayAfter]
  omega

/-- The next wait is at most twice as long. -/
theorem toNanos_delayAfter_succ_le (n : Nat) :
    (policy.delayAfter (n + 2)).toNanos ≤ 2 * (policy.delayAfter (n + 1)).toNanos := by
  rw [toNanos_delayAfter, toNanos_delayAfter]
  rcases factor_succ n with hnext | hnext
  · rw [hnext, Nat.mul_left_comm]
    omega
  · rw [hnext]
    omega

/-- No wait is more than 1024 times as long as the base delay. -/
theorem toNanos_delayAfter_le (n : Nat) :
    (policy.delayAfter n).toNanos ≤ policy.baseDelay.toNanos * 1024 := by
  have hfactor := Nat.mul_le_mul_left policy.baseDelay.toNanos (factor_le n)
  rw [toNanos_delayAfter]
  omega

variable {policy}

theorem toMillis_delayAfter {base : UInt64} (hbase : policy.baseDelay = .ofMillis base) (n : Nat) :
    (policy.delayAfter n).toMillis = min (base.toNat * factor n) 18446744073709551615999 := by
  have hlongest : Duration.longest.toNanos = 18446744073709551615999999999 := rfl
  rw [Duration.toMillis, toNanos_delayAfter, hbase, Duration.toNanos_ofMillis, hlongest,
    Nat.mul_right_comm]
  omega

/-- The first wait that 64 bits of milliseconds cannot hold leaves less in them than the wait before
it. -/
theorem mod_lt_of_overflow {base : UInt64} (hbase : policy.baseDelay = .ofMillis base) {n : Nat}
    (hfits : (policy.delayAfter (n + 1)).toMillis < UInt64.size)
    (hover : UInt64.size ≤ (policy.delayAfter (n + 2)).toMillis) :
    (policy.delayAfter (n + 2)).toMillis % UInt64.size < (policy.delayAfter (n + 1)).toMillis := by
  have hsize : UInt64.size = 18446744073709551616 := rfl
  simp only [toMillis_delayAfter hbase, hsize] at hfits hover ⊢
  rcases factor_succ n with hnext | hnext
  · rw [hnext, Nat.mul_left_comm] at hover ⊢
    omega
  · rw [hnext] at hover
    omega

end

/-! ## Logged delays -/

/-- An event logs a delay of some milliseconds. -/
def Logs (event : Log.Event) (millis : Nat) : Prop :=
  event.fields.lookup "delay_ms" = some (.count millis)

/-- No event logs a shorter delay than one before it. -/
def NeverDecrease (events : List Log.Event) : Prop :=
  events.Pairwise fun event event' => ∀ millis millis', Logs event millis → Logs event' millis' →
    millis ≤ millis'

/-- A retry logs its wait, as far as 64 bits hold it. -/
theorem logs_retryEvent_iff (policy : RetryPolicy) (op : String) (n : Nat) (e : Envelope.Error)
    (millis : Nat) :
    Logs (policy.retryEvent op n e) millis ↔
      millis = (policy.delayAfter n).toMillis % UInt64.size := by
  have hfield : (policy.retryEvent op n e).fields.lookup "delay_ms" =
      some (.count ((policy.delayAfter n).toMillis % UInt64.size)) := rfl
  rw [Logs, hfield, Option.some.injEq, Log.Value.count.injEq, eq_comm]

/-- So it logs the wait exactly if that fits. -/
theorem logs_toMillis_iff (policy : RetryPolicy) (op : String) (n : Nat) (e : Envelope.Error) :
    Logs (policy.retryEvent op n e) (policy.delayAfter n).toMillis ↔
      (policy.delayAfter n).toMillis < UInt64.size := by
  rw [logs_retryEvent_iff, eq_comm, Nat.mod_eq_iff_lt (by decide)]

/-- So it does if the base delay leaves room for ten doublings. -/
theorem logs_of_base (policy : RetryPolicy) (op : String) (n : Nat) (e : Envelope.Error)
    (h : policy.baseDelay.toMillis * 1024 < UInt64.size) :
    Logs (policy.retryEvent op n e) (policy.delayAfter n).toMillis := by
  have hle := policy.toNanos_delayAfter_le n
  have hsize : UInt64.size = 18446744073709551616 := rfl
  rw [logs_toMillis_iff]
  simp only [Duration.toMillis, hsize] at h ⊢
  omega

/-! ## Retries -/

/-- The warnings among some acts, each with the wait that is slept right after it. -/
def retries : List (Act α) → List (Log.Event × Duration)
  | .log event :: .sleep wait :: acts => (event, wait) :: retries acts
  | _ :: acts => retries acts
  | [] => []

section

variable (policy : RetryPolicy) (op : String) (answer : Nat → Timed (Except Envelope.Error α))
  (fault : Nat → Envelope.Error) (last : Timed (Except Envelope.Error α))

/-- A retry: what is logged of an attempt, and how long is slept after it. -/
def retry (n : Nat) : Log.Event × Duration :=
  (policy.retryEvent op n (fault n), policy.delayAfter n)

theorem retries_flatMap (ns : List Nat) :
    retries (ns.flatMap (policy.retried op answer fault) ++ [.call last]) =
      ns.map (policy.retry op fault) := by
  induction ns with
  | nil => rfl
  | cons n ns ih => exact congrArg (_ :: ·) ih

/-- On the clock some of the attempts have their retries, and each wait but the last of these is
over before the deadline. -/
theorem exists_events_perform (deadline : Option Nat) (n left : Nat)
    (outcome : Option (Except Envelope.Error α)) (millis : Nat) (events : List Log.Event) :
    ∃ told ≤ left,
      (perform deadline ((List.range' n left).flatMap (policy.retried op answer fault) ++
        [.call last]) outcome millis events).events =
          events ++ (List.range' n told).map (fun i => (policy.retry op fault i).1) ∧
      ∀ i, n ≤ i → i + 1 < n + told → reached deadline (policy.delayAfter i).ticks = false := by
  induction left generalizing n outcome millis events with
  | zero =>
    refine ⟨0, Nat.le_refl _, ?_, by omega⟩
    simp only [List.range'_zero, List.flatMap_nil, List.nil_append, perform, List.map_nil,
      List.append_nil]
    split <;> rfl
  | succ left ih =>
    rw [List.range'_succ, List.flatMap_cons, retried]
    simp only [List.cons_append, List.nil_append, perform]
    split
    · exact ⟨0, Nat.zero_le _, by simp [cutOff], by omega⟩
    · split
      · exact ⟨1, by omega, rfl, by omega⟩
      · next hsleep =>
        obtain ⟨told, hle, hevents, hslept⟩ := ih (n + 1) (some (answer n).value)
          (millis + (answer n).millis + (policy.delayAfter n).ticks)
          (events ++ [policy.retryEvent op n (fault n)])
        refine ⟨told + 1, by omega, ?_, ?_⟩
        · rw [hevents, List.range'_succ, List.map_cons, List.append_assoc]
          rfl
        · intro i hi hlt
          rcases Nat.lt_or_eq_of_le hi with hnext | rfl
          · exact hslept i hnext (by omega)
          · exact not_reached_of_le (Nat.le_add_left _ _) (Bool.eq_false_iff.mpr hsleep)

end

section

variable (operation : StateM σ (Timed (Except Envelope.Error α))) (s : σ) (policy : RetryPolicy)
  (op : String)

/-- The retries of a run are those of the attempts before its last one. With a deadline it comes to
some of them. -/
theorem exists_retries :
    ∃ count fault,
      retries (policy.acts op operation 1 s).1 =
        (List.range' 1 count).map (policy.retry op fault) ∧
      (policy.run none op operation s).1.events =
        (List.range' 1 count).map (fun n => (policy.retry op fault n).1) ∧
      ∀ deadline, ∃ told ≤ count,
        (policy.run deadline op operation s).1.events =
          (List.range' 1 told).map (fun n => (policy.retry op fault n).1) ∧
        ∀ n, 0 < n → n < told → reached deadline (policy.delayAfter n).ticks = false := by
  let last := lastOf operation s policy
  obtain ⟨fault, hfault⟩ := exists_fault operation s policy
  have hacts := congrArg (·.1) (acts_eq_retried operation s policy op hfault)
  have hevents := eventsOf_eq_map operation s policy op (n := last - 1)
    fun n h0 hn => hfault n h0 (by omega)
  have hrun := run_of_not_reached operation s policy none op rfl
  refine ⟨last - 1, fault, ?_, (congrArg (·.1.events) hrun).trans hevents, fun deadline => ?_⟩
  · exact (congrArg retries hacts).trans (policy.retries_flatMap ..)
  · obtain ⟨told, hle, htold, hslept⟩ := policy.exists_events_perform op (answer operation s) fault
      (answer operation s last) deadline 1 (last - 1) none 0 []
    refine ⟨told, hle, ?_, fun n h0 hn => hslept n h0 (by omega)⟩
    rw [run_eq_perform]
    exact (congrArg (fun acts => (perform deadline acts none 0 []).events) hacts).trans htold

end

/-! ## Waits that fit -/

section

variable (policy : RetryPolicy)

theorem toMillis_delayAfter_one_lt (h : policy.baseDelay.toMillis < UInt64.size) :
    (policy.delayAfter 1).toMillis < UInt64.size := by
  rw [Duration.toMillis, toNanos_delayAfter_one]
  exact h

/-- A wait that is over before a deadline is followed by one that fits. -/
theorem toMillis_delayAfter_succ_lt {limit n : Nat} (hlimit : limit ≤ Duration.maxTicks)
    (h : reached (some limit) (policy.delayAfter (n + 1)).ticks = false) :
    (policy.delayAfter (n + 2)).toMillis < UInt64.size := by
  have hslept : (policy.delayAfter (n + 1)).ticks < limit := by simpa [reached] using h
  have hticks := Duration.min_le_ticks_mul (policy.delayAfter (n + 1))
  have hnext := policy.toNanos_delayAfter_succ_le n
  have hmax : Duration.maxTicks = 946080000000 := rfl
  have hsize : UInt64.size = 18446744073709551616 := rfl
  rw [Duration.toMillis, hsize]
  rw [hmax] at hlimit hticks
  generalize (policy.delayAfter (n + 1)).ticks = ticks at hslept hticks
  generalize (policy.delayAfter (n + 1)).toNanos = wait at hticks hnext
  omega

variable {policy} {op : String} {fault : Nat → Envelope.Error}

/-- So all waits fit of which each but the last is over before a deadline. -/
theorem fits_of_slept {limit told : Nat} (hbase : policy.baseDelay.toMillis < UInt64.size)
    (hlimit : limit ≤ Duration.maxTicks)
    (hslept : ∀ n, 0 < n → n < told → reached (some limit) (policy.delayAfter n).ticks = false)
    {n : Nat} (hpos : 0 < n) (hle : n ≤ told) : (policy.delayAfter n).toMillis < UInt64.size := by
  obtain ⟨n, rfl⟩ : ∃ m, n = m + 1 := Nat.exists_eq_add_of_le' hpos
  cases n with
  | zero => exact policy.toMillis_delayAfter_one_lt hbase
  | succ n =>
    exact policy.toMillis_delayAfter_succ_lt hlimit (hslept (n + 1) (by omega) (by omega))

/-- If all waits of some attempts fit, no event logs less than one before it. -/
theorem neverDecrease_of_fits {count : Nat}
    (hfits : ∀ n, 0 < n → n ≤ count → (policy.delayAfter n).toMillis < UInt64.size) :
    NeverDecrease ((List.range' 1 count).map fun n => (policy.retry op fault n).1) := by
  rw [NeverDecrease, List.pairwise_map]
  refine List.Pairwise.imp_of_mem ?_ (List.pairwise_lt_range' (s := 1) (n := count) 1)
  intro m n hm hn hlt millis millis' hlogs hlogs'
  have hm := List.mem_range'_1.mp hm
  have hn := List.mem_range'_1.mp hn
  rw [retry, logs_retryEvent_iff, Nat.mod_eq_of_lt (hfits _ (by omega) (by omega))] at hlogs hlogs'
  rw [hlogs, hlogs']
  exact Nat.div_le_div_right (policy.toNanos_delayAfter_mono (Nat.le_of_lt hlt))

/-- Conversely all of them fit, if the base delay is one of whole milliseconds. -/
theorem fits_of_neverDecrease {base : UInt64} (hbase : policy.baseDelay = .ofMillis base)
    {count : Nat}
    (h : NeverDecrease ((List.range' 1 count).map fun n => (policy.retry op fault n).1)) {n : Nat}
    (hpos : 0 < n) (hle : n ≤ count) : (policy.delayAfter n).toMillis < UInt64.size := by
  obtain ⟨n, rfl⟩ : ∃ m, n = m + 1 := Nat.exists_eq_add_of_le' hpos
  induction n with
  | zero =>
    rw [toMillis_delayAfter hbase]
    have hlt := base.toNat_lt
    show min (base.toNat * 1) _ < 18446744073709551616
    omega
  | succ n ih =>
    have hfits := ih (by omega) (by omega)
    refine Nat.lt_of_not_le fun hover => ?_
    rw [NeverDecrease, List.pairwise_map, List.pairwise_iff_getElem] at h
    have hnext := h n (n + 1) (by simp; omega) (by simp; omega) (Nat.lt_succ_self n)
    simp only [List.getElem_range', Nat.one_mul, Nat.add_comm 1, retry, logs_retryEvent_iff,
      Nat.mod_eq_of_lt hfits] at hnext
    exact Nat.not_le_of_gt (mod_lt_of_overflow hbase hfits hover) (hnext _ _ rfl rfl)

end

/-- **A retry logs its wait as far as 64 bits of milliseconds hold it.** Each event of a run is
followed by a sleep, and these waits never decrease. An event logs the whole milliseconds of its
wait modulo 2^64, and so logs them exactly if they are below 2^64. With a base delay below 2^54
milliseconds they always are. In general they are not: after a base delay of whole milliseconds,
which every setting is, the logged delays of a run never decrease if and only if all of them are
exact, since the first wait that does not fit is logged as less than the one before it.

Before a deadline that a timer can run for, such a wait does not come up, whatever the setting. The
run comes to the first of its retries, and what these log is exact. -/
theorem run_logs_waits (policy : RetryPolicy) (op : String)
    (operation : StateM σ (Timed (Except Envelope.Error α))) (s : σ) :
    let acts := (policy.acts op operation 1 s).1
    let run deadline := (policy.run deadline op operation s).1
    (∀ deadline, run deadline = perform deadline acts none 0 []) ∧
    (run none).events = (retries acts).map (·.1) ∧
    ((retries acts).map (·.2.toNanos)).Pairwise (· ≤ ·) ∧
    (∀ r ∈ retries acts, (∀ millis, Logs r.1 millis ↔ millis = r.2.toMillis % UInt64.size) ∧
      (Logs r.1 r.2.toMillis ↔ r.2.toMillis < UInt64.size)) ∧
    (policy.baseDelay.toMillis * 1024 < UInt64.size →
      ∀ r ∈ retries acts, Logs r.1 r.2.toMillis) ∧
    (∀ base, policy.baseDelay = .ofMillis base →
      (NeverDecrease (run none).events ↔ ∀ r ∈ retries acts, Logs r.1 r.2.toMillis)) ∧
    (policy.baseDelay.toMillis < UInt64.size → ∀ limit ≤ Duration.maxTicks,
      ∃ told, told <+: retries acts ∧ (run (some limit)).events = told.map (·.1) ∧
        NeverDecrease (run (some limit)).events ∧ ∀ r ∈ told, Logs r.1 r.2.toMillis) := by
  intro acts run
  obtain ⟨count, fault, hretries, hevents, hdeadline⟩ := exists_retries operation s policy op
  have hretries : retries acts = (List.range' 1 count).map (policy.retry op fault) := hretries
  have hevents : (run none).events =
      (List.range' 1 count).map fun n => (policy.retry op fault n).1 := hevents
  have hretry (n : Nat) := logs_retryEvent_iff policy op n (fault n)
  have hexact (n : Nat) := logs_toMillis_iff policy op n (fault n)
  refine ⟨fun deadline => run_eq_perform operation s policy deadline op, ?_, ?_, ?_, ?_, ?_, ?_⟩
  · rw [hevents, hretries, List.map_map]
    rfl
  · rw [hretries, List.map_map, List.pairwise_map]
    refine (List.pairwise_lt_range' (s := 1) (n := count) 1).imp fun hlt => ?_
    exact policy.toNanos_delayAfter_mono (Nat.le_of_lt hlt)
  · rw [hretries, List.forall_mem_map]
    exact fun n _ => ⟨hretry n, hexact n⟩
  · intro hbase
    rw [hretries, List.forall_mem_map]
    exact fun n _ => logs_of_base policy op n (fault n) hbase
  · intro base hbase
    rw [hevents, hretries, List.forall_mem_map]
    constructor
    · intro hnever n hn
      have hn := List.mem_range'_1.mp hn
      exact (hexact n).mpr (fits_of_neverDecrease hbase hnever hn.1 (by omega))
    · intro hlogs
      refine neverDecrease_of_fits fun n hpos hle => (hexact n).mp ?_
      exact hlogs n (List.mem_range'_1.mpr ⟨hpos, by omega⟩)
  · intro hbase limit hlimit
    obtain ⟨told, hle, htold, hslept⟩ := hdeadline (some limit)
    have htold : (run (some limit)).events =
        (List.range' 1 told).map fun n => (policy.retry op fault n).1 := htold
    have hfits : ∀ n, 0 < n → n ≤ told → (policy.delayAfter n).toMillis < UInt64.size :=
      fun n hpos hn => fits_of_slept hbase hlimit hslept hpos hn
    refine ⟨(List.range' 1 told).map (policy.retry op fault), ?_, ?_, ?_, ?_⟩
    · obtain ⟨more, rfl⟩ : ∃ more, count = told + more := ⟨count - told, by omega⟩
      rw [hretries, ← List.range'_append_1]
      exact (List.prefix_append _ _).map _
    · rw [htold, List.map_map]
      rfl
    · rw [htold]
      exact neverDecrease_of_fits hfits
    · rw [List.forall_mem_map]
      intro n hn
      have hn := List.mem_range'_1.mp hn
      exact (hexact n).mpr (hfits n hn.1 (by omega))

/-- The largest base delay of all settings, within the time of a request. -/
theorem run_logs_waits_largest_base :
    let policy : RetryPolicy := ⟨3, .ofMillis 18446744073709551615⟩
    let operation : StateM Unit (Timed (Except Envelope.Error Unit)) :=
      fun s => (.now (.error (.kmsUnavailable "try")), s)
    let retries := retries (policy.acts "seal" operation 1 ()).1
    let events := (policy.run (some 60000) "seal" operation ()).1.events
    policy.baseDelay.toMillis < UInt64.size ∧ 60000 ≤ Duration.maxTicks ∧
      ∃ told, told <+: retries ∧ events = told.map (·.1) ∧ NeverDecrease events ∧
        ∀ r ∈ told, Logs r.1 r.2.toMillis := by
  intro policy operation retries events
  have hbase : policy.baseDelay.toMillis < UInt64.size := by decide +kernel
  have hlimit : 60000 ≤ Duration.maxTicks := by decide
  obtain ⟨-, -, -, -, -, -, hdeadline⟩ := run_logs_waits policy "seal" operation ()
  exact ⟨hbase, hlimit, hdeadline hbase 60000 hlimit⟩

/-- The largest power of two that a setting allows for the base delay, and a service that is not
there. The second wait is 2^64 milliseconds, but its event logs none. -/
theorem run_logs_no_wait :
    let policy : RetryPolicy := ⟨3, .ofMillis 9223372036854775808⟩
    let operation : StateM Unit (Timed (Except Envelope.Error Unit)) :=
      fun s => (.now (.error (.kmsUnavailable "try")), s)
    let retries := retries (policy.acts "seal" operation 1 ()).1
    let events := (policy.run none "seal" operation ()).1.events
    events = retries.map (·.1) ∧
      retries.map (·.2.toMillis) = [9223372036854775808, 18446744073709551616] ∧
      (∃ r ∈ retries, r.2.toMillis = 18446744073709551616 ∧ Logs r.1 0) ∧
      ¬(∀ r ∈ retries, Logs r.1 r.2.toMillis) ∧ ¬NeverDecrease events := by
  intro policy operation retries events
  let retry (n : Nat) : Log.Event × Duration :=
    (policy.retryEvent "seal" n (.kmsUnavailable "try"), policy.delayAfter n)
  have hretries : retries = [retry 1, retry 2] := by
    dsimp only [retries]
    rw [acts_of_transient operation policy "seal" () (by decide) rfl rfl,
      acts_of_transient operation policy "seal" () (by decide) rfl rfl,
      acts_of_final operation policy "seal" () (.inl (by decide))]
    rfl
  have hevents : events = [(retry 1).1, (retry 2).1] := rfl
  have hlogs (n millis : Nat) : Logs (retry n).1 millis ↔
      millis = (policy.delayAfter n).toMillis % UInt64.size :=
    logs_retryEvent_iff policy "seal" n (.kmsUnavailable "try") millis
  have hfirst : (policy.delayAfter 1).toMillis = 9223372036854775808 := by decide +kernel
  have hsecond : (policy.delayAfter 2).toMillis = 18446744073709551616 := by decide +kernel
  have hlogsFirst : Logs (retry 1).1 9223372036854775808 := by
    rw [hlogs, hfirst]
    rfl
  have hlogsSecond : Logs (retry 2).1 0 := by
    rw [hlogs, hsecond]
    rfl
  rw [hevents, hretries]
  refine ⟨rfl, ?_, ⟨retry 2, by simp, hsecond, hlogsSecond⟩, ?_, ?_⟩
  · rw [List.map_cons, List.map_cons, List.map_nil, hfirst, hsecond]
  · intro hall
    have hwrong := hall (retry 2) (by simp)
    rw [hlogs, hsecond] at hwrong
    contradiction
  · intro hnever
    have hpair := List.rel_of_pairwise_cons hnever (List.mem_singleton_self _)
    exact absurd (hpair _ _ hlogsFirst hlogsSecond) (by decide)

end PathSeal.RetryPolicy
