import Mathlib.Algebra.Order.BigOperators.Group.List
import Mathlib.Algebra.Order.Group.Nat
import Mathlib.Data.Nat.Find
import PathSeal.Proofs.Duration
import PathSeal.Proofs.Envelope.Codec
import PathSeal.Proofs.Kms.Script
import PathSeal.Proofs.Service.Stages

/-!
# PathSeal.Proofs.Service.Course

How a request goes whose key service answers from a script. Three clocks run: the
time limit of each call, the waits between attempts, and the time that a request
may take. `Course` works out from the script alone what comes of them, and
`handle_scripted` says that this is what the service does.

Each attempt takes the smaller of the reply's delay and the time limit
(`Course.cost`), and comes to what the codec makes of the reply or to a timeout
(`Course.effective`). These fix the last attempt and the total time.

No timer runs longer than thirty years, while delays and limits may be longer. An
attempt that takes that long may come to something else than the course says; but
by then the time of the request is long over.
-/

namespace PathSeal.Service

open Bytes
open Kms (World Call Script)
open Envelope (Codec)

/-! ## Courses -/

/-- The call that an operation makes. -/
def Operation.callName : Operation → String
  | sealing => "wrap"
  | opening => "unwrap"

/-- How many random bytes one attempt at an operation draws. -/
def Operation.drawn : Operation → Nat
  | sealing => Cipher.keyLength + Cipher.nonceLength
  | opening => 0

/-- A request over a scripted service, as far as its course depends on it. -/
structure Course where
  algorithm : Cipher.Algorithm
  /-- The time limit of a call in milliseconds. -/
  timeout : UInt64
  policy : RetryPolicy
  op : Operation
  path : String
  body : Bytes
  entropy : Entropy
  script : Script

namespace Course

variable (c : Course)

/-- What the codec makes of the reply to an attempt. Attempts are counted from 1. -/
def answer (n : Nat) : Except Envelope.Error Bytes :=
  let outcome := (c.script.replyTo n).outcome
  match c.op with
  | .sealing => do
    let w : World Unit := ⟨c.entropy.skip (c.op.drawn * (n - 1)), ()⟩
    let box ← (Cipher.encrypt c.algorithm (Codec.drawnKey w).val (Codec.drawnNonce w).val c.body
      (ofString c.path)).mapError .ofCipher
    let wrappedKey ← (outcome.wrapped (Codec.drawnKey w).val).mapError .ofKms
    return Envelope.encode (Envelope.assemble (Codec.drawnNonce w) box wrappedKey)
  | .opening => do
    let e ← Envelope.ofBytes c.body
    let material ← (outcome.bytes e.wrappedKey.bytes).mapError .ofKms
    Envelope.decryptWith c.algorithm e (ofString c.path) material

/-- What an attempt comes to: what the codec makes of the reply, or a timeout. A reply that comes at
the very end of the time limit still counts. -/
def effective (n : Nat) : Except Envelope.Error Bytes :=
  if (c.script.replyTo n).millis ≤ c.timeout.toNat then c.answer n
  else .error (.kmsUnavailable
    s!"KMS {c.op.callName} timed out after {(Duration.ofMillis c.timeout).text}")

/-- How long an attempt takes in milliseconds. -/
def cost (n : Nat) : Nat :=
  min (c.script.replyTo n).millis c.timeout.toNat

/-- The wait after a failed attempt, in the whole milliseconds that cover it. -/
def pause (n : Nat) : Nat :=
  (c.policy.delayAfter n).wholeMillis

/-- The last attempt: the first one that is final, or the last one that there can be. -/
def last : Nat :=
  c.policy.lastAttempt fun n => RetryPolicy.isTransient (c.effective n)

/-- The time that all attempts take, with the waits between them. -/
def total : Nat :=
  ((List.range' 1 c.last).map c.cost).sum + ((List.range' 1 (c.last - 1)).map c.pause).sum

/-- The response to what the last attempt comes to. -/
def response : Response :=
  match c.effective c.last with
  | .ok body => .octets body
  | .error e => .ofError (.ofEnvelope e)

/-- A request for which the codec makes a call at all. -/
def Reaches : Prop :=
  c.path ≠ "" ∧
    match c.op with
    | .sealing => c.body.length ≤ Cipher.maxLength ∧ (ofString c.path).length ≤ Cipher.maxLength
    | .opening => ∃ e, Envelope.ofBytes c.body = .ok e

theorem last_mem : 0 < c.last ∧ c.last ≤ c.policy.mostAttempts :=
  c.policy.lastAttempt_mem fun n => RetryPolicy.isTransient (c.effective n)

theorem isTransient_of_lt_last {n : Nat} (hpos : 0 < n) (h : n < c.last) :
    RetryPolicy.isTransient (c.effective n) :=
  c.policy.transient_of_lt_lastAttempt (fun n => RetryPolicy.isTransient (c.effective n)) hpos h

theorem last_eq_or_not_isTransient :
    c.last = c.policy.mostAttempts ∨ RetryPolicy.isTransient (c.effective c.last) = false :=
  c.policy.lastAttempt_eq_or_not_transient fun n => RetryPolicy.isTransient (c.effective n)

/-! ## Time limits -/

/-- An attempt takes no longer than any timer. -/
theorem millis_bounded_wait (op : String) (timeout : UInt64) (reply : Script.Reply)
    (value : Except Kms.Error α) :
    (Envelope.bounded op (.ofMillis timeout) ⟨value, reply.wait⟩).millis =
      min (min reply.millis timeout.toNat) Duration.maxTicks := by
  rw [Envelope.millis_bounded, Script.Reply.wait, Duration.ticks_ofMillis]
  dsimp only
  omega

/-- If it is through earlier than that, the delay of the reply decides whether it counts. -/
theorem value_bounded_wait (op : String) {timeout : UInt64} {reply : Script.Reply}
    (value : Except Kms.Error α) (h : min reply.millis timeout.toNat < Duration.maxTicks) :
    (Envelope.bounded op (.ofMillis timeout) ⟨value, reply.wait⟩).value =
      if reply.millis ≤ timeout.toNat then value.mapError .ofKms
      else .error (.kmsUnavailable
        s!"KMS {op} timed out after {(Duration.ofMillis timeout).text}") := by
  have hwait : reply.wait ≤ (Duration.ofMillis timeout).ticks ↔ reply.millis ≤ timeout.toNat := by
    rw [Script.Reply.wait, Duration.ticks_ofMillis]
    omega
  by_cases hle : reply.millis ≤ timeout.toNat
  · rw [Envelope.bounded_of_le op (hwait.mpr hle), if_pos hle]
  · have hlt := Nat.lt_of_not_le (mt hwait.mp hle)
    rw [Envelope.bounded_of_lt op hlt, if_neg hle]

/-! ## One attempt -/

/-- The surroundings after a number of attempts: the random bytes and replies that are left. -/
def At (n : Nat) (w : World (Script × List Call)) : Prop :=
  w.entropy = c.entropy.skip (c.op.drawn * n) ∧ w.kms.1 = c.script.after n

/-- What an attempt does: it takes one reply and notes one call, and comes to what the course says,
unless it takes longer than any timer. -/
def Attempts (n : Nat) (w : World (Script × List Call))
    (result : Kms.Timed (Except Envelope.Error Bytes) × World (Script × List Call)) : Prop :=
  result.1.millis = min (c.cost (n + 1)) Duration.maxTicks ∧
    (c.cost (n + 1) < Duration.maxTicks → result.1.value = c.effective (n + 1)) ∧
    c.At (n + 1) result.2 ∧ result.2.kms.2.length = w.kms.2.length + 1

section

variable {c} {codec : Codec (Script × List Call)} (key : Key.Handle) {n : Nat}
  {w : World (Script × List Call)}

/-- An attempt to seal draws a data key and a nonce, and makes one call. -/
theorem attempts_sealToBytes (hop : c.op = .sealing) (hc : c.Reaches)
    (hcodec : codec = ⟨Script.wrapper.recorded, ⟨c.algorithm, .ofMillis c.timeout⟩⟩)
    (hw : c.At n w) : c.Attempts n w (codec.sealToBytes key c.path c.body w) := by
  obtain ⟨hentropy, hscript⟩ := hw
  obtain ⟨hpath, hlengths⟩ := hc
  rw [hop] at hlengths
  subst hcodec
  have hbox := (Cipher.encrypt_eq_ok_iff c.algorithm (Codec.drawnKey w) (Codec.drawnNonce w) c.body
    (ofString c.path) _).mpr ⟨hlengths, rfl⟩
  have hnext : Script.next (Codec.afterDraws w).kms.1 =
      (c.script.replyTo (n + 1), c.script.after (n + 1)) := by
    rw [← Script.next_after, ← hscript]
    rfl
  rw [Codec.sealToBytes_eq, Codec.sealPayload_of_encrypt _ key c.path c.body w hpath hbox,
    Script.wrap_recorded]
  dsimp only
  rw [hnext]
  dsimp only
  refine ⟨millis_bounded_wait .., ?_, ⟨?_, rfl⟩, ?_⟩
  · intro hcost
    rw [value_bounded_wait "wrap" _ hcost, effective]
    split
    · have hkey : Codec.drawnKey w =
          Codec.drawnKey (⟨c.entropy.skip (c.op.drawn * n), ()⟩ : World Unit) :=
        Codec.drawnKey_congr hentropy
      have hnonce : Codec.drawnNonce w =
          Codec.drawnNonce (⟨c.entropy.skip (c.op.drawn * n), ()⟩ : World Unit) :=
        Codec.drawnNonce_congr hentropy
      rw [hkey, hnonce] at hbox ⊢
      simp only [answer, hop, Nat.add_sub_cancel] at hbox ⊢
      rw [hbox]
      cases (c.script.replyTo (n + 1)).outcome.wrapped _ with
      | ok wrappedKey => rfl
      | error e => rfl
    · rw [hop]
      rfl
  · rw [Codec.afterDraws, hentropy, Entropy.skip_skip, hop]
    rfl
  · rw [List.length_append]
    rfl

/-- An attempt to open draws nothing, and makes one call. -/
theorem attempts_openBytes (hop : c.op = .opening) (hc : c.Reaches)
    (hcodec : codec = ⟨Script.wrapper.recorded, ⟨c.algorithm, .ofMillis c.timeout⟩⟩)
    (hw : c.At n w) : c.Attempts n w (codec.openBytes key c.path c.body w) := by
  obtain ⟨hentropy, hscript⟩ := hw
  obtain ⟨hpath, hbody⟩ := hc
  rw [hop] at hbody
  obtain ⟨e, hbytes⟩ := hbody
  subst hcodec
  have hnext : Script.next w.kms.1 = (c.script.replyTo (n + 1), c.script.after (n + 1)) := by
    rw [← Script.next_after, ← hscript]
  rw [Codec.openBytes_of_ok _ key c.path w hbytes, Codec.openEnvelope_of_ne _ key c.path w hpath,
    Script.unwrap_recorded]
  dsimp only
  rw [hnext]
  dsimp only
  refine ⟨millis_bounded_wait .., ?_, ⟨?_, rfl⟩, ?_⟩
  · intro hcost
    rw [value_bounded_wait "unwrap" _ hcost, effective]
    split
    · simp only [answer, hop, hbytes]
      rfl
    · rw [hop]
      rfl
  · rw [hentropy, hop, Operation.drawn, Nat.zero_mul, Nat.zero_mul]
  · rw [List.length_append]
    rfl

/-- An attempt at either operation goes as its course says. -/
theorem attempts_attempt {app : App (Script × List Call)} (hc : c.Reaches)
    (hcodec : app.codec = ⟨Script.wrapper.recorded, ⟨c.algorithm, .ofMillis c.timeout⟩⟩)
    (hw : c.At n w) : c.Attempts n w (app.attempt c.op key c.path c.body w) := by
  cases hop : c.op with
  | sealing => exact attempts_sealToBytes key hop hc hcodec hw
  | opening => exact attempts_openBytes key hop hc hcodec hw

/-- If the codec makes no call, it refuses at once and for good. -/
theorem attempt_of_not_reaches {app : App (Script × List Call)} (hc : ¬c.Reaches)
    (hcodec : app.codec = ⟨Script.wrapper.recorded, ⟨c.algorithm, .ofMillis c.timeout⟩⟩) :
    ∃ e, (app.attempt c.op key c.path c.body w).1 = .now (.error e) ∧ e.isRetryable = false ∧
      (app.attempt c.op key c.path c.body w).2.kms = w.kms := by
  cases hop : c.op with
  | sealing =>
    rw [App.attempt, Codec.sealToBytes_eq, hcodec]
    by_cases hpath : c.path = ""
    · rw [hpath]
      exact ⟨_, rfl, rfl, rfl⟩
    · cases hbox : Cipher.encrypt c.algorithm (Codec.drawnKey w).val (Codec.drawnNonce w).val
          c.body (ofString c.path) with
      | error fault =>
        rw [Codec.sealPayload_of_encrypt_error _ key c.path c.body w hpath hbox]
        exact ⟨.ofCipher fault, rfl, Envelope.Error.isRetryable_ofCipher fault, rfl⟩
      | ok box =>
        have hlengths := ((Cipher.encrypt_eq_ok_iff ..).mp hbox).1
        refine absurd ⟨hpath, ?_⟩ hc
        rw [hop]
        exact hlengths
  | opening =>
    rw [App.attempt]
    cases hbytes : Envelope.ofBytes c.body with
    | error fault =>
      rw [Codec.openBytes_of_error _ key c.path w hbytes]
      exact ⟨fault, rfl, Envelope.isRetryable_of_ofBytes hbytes, rfl⟩
    | ok e =>
      rw [Codec.openBytes_of_ok _ key c.path w hbytes]
      by_cases hpath : c.path = ""
      · rw [hpath, Codec.openEnvelope_empty]
        exact ⟨_, rfl, rfl, rfl⟩
      · refine absurd ⟨hpath, ?_⟩ hc
        rw [hop]
        exact ⟨e, hbytes⟩

end

/-! ## All attempts -/

/-- Cutting each of some numbers off at a cap cuts their sum off at the cap at most. -/
theorem min_sum_le (l : List Nat) (f : Nat → Nat) (cap : Nat) :
    min (l.map f).sum cap ≤ (l.map fun i => min (f i) cap).sum := by
  induction l with
  | nil => simp
  | cons i l ih =>
    simp only [List.map_cons, List.sum_cons]
    omega

/-- If the sum does not come to the cap, no number is cut off. -/
theorem sum_min_of_lt {l : List Nat} {f : Nat → Nat} {cap : Nat} (h : (l.map f).sum < cap) :
    (l.map fun i => min (f i) cap).sum = (l.map f).sum := by
  congr 1
  apply List.map_congr_left
  intro i hi
  have hle : f i ≤ (l.map f).sum := List.le_sum_of_mem (List.mem_map_of_mem hi)
  exact Nat.min_eq_left (Nat.le_of_lt (Nat.lt_of_le_of_lt hle h))

theorem requestTimeout_le_maxTicks : requestTimeout ≤ Duration.maxTicks := by decide

section

open RetryPolicy (stateAfter elapsed lastOf reached)

variable {c} {app : App (Script × List Call)} (key : Key.Handle) {w : World (Script × List Call)}
  (hc : c.Reaches)
  (hcodec : app.codec = ⟨Script.wrapper.recorded, ⟨c.algorithm, .ofMillis c.timeout⟩⟩)
  (hw : c.At 0 w)

include hc hcodec hw

/-- Each attempt takes one reply and notes one call. -/
theorem at_stateAfter (n : Nat) :
    let w' := stateAfter (app.attempt c.op key c.path c.body) w n
    c.At n w' ∧ w'.kms.2.length = w.kms.2.length + n := by
  induction n with
  | zero => exact ⟨hw, rfl⟩
  | succ n ih =>
    obtain ⟨hat, hlength⟩ := ih
    obtain ⟨-, -, hnext, hnoted⟩ := attempts_attempt key hc hcodec hat
    refine ⟨hnext, ?_⟩
    rw [stateAfter, hnoted, hlength, Nat.add_assoc]

/-- An attempt takes its cost, up to the time of any timer. -/
theorem millis_answer {n : Nat} (hn : 0 < n) :
    (RetryPolicy.answer (app.attempt c.op key c.path c.body) w n).millis =
      min (c.cost n) Duration.maxTicks := by
  obtain ⟨n, rfl⟩ := Nat.exists_eq_succ_of_ne_zero (Nat.ne_of_gt hn)
  obtain ⟨hat, -⟩ := at_stateAfter key hc hcodec hw n
  exact (attempts_attempt key hc hcodec hat).1

/-- An attempt that takes less comes to what the course says. -/
theorem value_answer {n : Nat} (hn : 0 < n) (hcost : c.cost n < Duration.maxTicks) :
    (RetryPolicy.answer (app.attempt c.op key c.path c.body) w n).value = c.effective n := by
  obtain ⟨n, rfl⟩ := Nat.exists_eq_succ_of_ne_zero (Nat.ne_of_gt hn)
  obtain ⟨hat, -⟩ := at_stateAfter key hc hcodec hw n
  exact (attempts_attempt key hc hcodec hat).2.1 hcost

/-- An attempt is through after the costs up to it and the waits between, up to the time of any
timer each. -/
theorem elapsed_eq {n : Nat} (hn : 0 < n) :
    elapsed (app.attempt c.op key c.path c.body) w c.policy n =
      ((List.range' 1 n).map fun i => min (c.cost i) Duration.maxTicks).sum +
        ((List.range' 1 (n - 1)).map fun i => min (c.pause i) Duration.maxTicks).sum := by
  obtain ⟨n, rfl⟩ := Nat.exists_eq_succ_of_ne_zero (Nat.ne_of_gt hn)
  have hcosts : (List.range' 1 (n + 1)).map
        (fun i => (RetryPolicy.answer (app.attempt c.op key c.path c.body) w i).millis) =
      (List.range' 1 (n + 1)).map fun i => min (c.cost i) Duration.maxTicks := by
    apply List.map_congr_left
    intro i hi
    exact millis_answer key hc hcodec hw (List.mem_range'_1.mp hi).1
  rw [Nat.succ_eq_add_one, RetryPolicy.elapsed_eq_sum, hcosts]
  rfl

/-- If no attempt takes as long as any timer, the last one is that of the course. -/
theorem lastOf_eq (hcost : ∀ i, 0 < i → i ≤ c.last → c.cost i < Duration.maxTicks) :
    lastOf (app.attempt c.op key c.path c.body) w c.policy = c.last := by
  obtain ⟨hpos, hle⟩ := c.last_mem
  refine c.policy.lastAttempt_eq_of _ hpos hle ?_ ?_
  · intro i hi hlt
    rw [value_answer key hc hcodec hw hi (hcost i hi (Nat.le_of_lt hlt))]
    exact c.isTransient_of_lt_last hi hlt
  · rw [value_answer key hc hcodec hw hpos (hcost c.last hpos (Nat.le_refl _))]
    exact c.last_eq_or_not_isTransient

/-- A course that is through in time is what the attempts come to. -/
theorem run_of_total_lt (h : c.total < requestTimeout) (op : String) :
    ∃ events, c.policy.run (some requestTimeout) op (app.attempt c.op key c.path c.body) w =
      (⟨some (c.effective c.last), c.total, events⟩,
        stateAfter (app.attempt c.op key c.path c.body) w c.last) := by
  obtain ⟨hpos, -⟩ := c.last_mem
  have hcap := Nat.lt_of_lt_of_le h requestTimeout_le_maxTicks
  have hcosts : ((List.range' 1 c.last).map c.cost).sum < Duration.maxTicks :=
    Nat.lt_of_le_of_lt (Nat.le_add_right ..) hcap
  have hpauses : ((List.range' 1 (c.last - 1)).map c.pause).sum < Duration.maxTicks :=
    Nat.lt_of_le_of_lt (Nat.le_add_left ..) hcap
  have hcost : ∀ i, 0 < i → i ≤ c.last → c.cost i < Duration.maxTicks := by
    intro i hi hle
    have hmem : i ∈ List.range' 1 c.last := List.mem_range'_1.mpr (by omega)
    exact Nat.lt_of_le_of_lt (List.le_sum_of_mem (List.mem_map_of_mem hmem)) hcosts
  have hlast := lastOf_eq key hc hcodec hw hcost
  have helapsed : elapsed (app.attempt c.op key c.path c.body) w c.policy c.last = c.total := by
    rw [elapsed_eq key hc hcodec hw hpos, sum_min_of_lt hcosts, sum_min_of_lt hpauses, total]
  have hreached : reached (some requestTimeout) c.total = false :=
    decide_eq_false (Nat.not_le_of_lt h)
  have hrun := RetryPolicy.run_of_not_reached (app.attempt c.op key c.path c.body) w c.policy
    (some requestTimeout) op (by rw [hlast, helapsed]; exact hreached)
  dsimp only at hrun
  rw [hlast, helapsed, value_answer key hc hcodec hw hpos (hcost c.last hpos (Nat.le_refl _))]
    at hrun
  exact ⟨_, hrun⟩

/-- A course that is not through in time is cut off. -/
theorem run_of_le_total (h : requestTimeout ≤ c.total) (op : String) :
    (c.policy.run (some requestTimeout) op (app.attempt c.op key c.path c.body) w).1.outcome =
      none := by
  obtain ⟨hpos, hle⟩ := c.last_mem
  have hcap := requestTimeout_le_maxTicks
  by_cases hcost : ∀ i, 0 < i → i ≤ c.last → c.cost i < Duration.maxTicks
  · apply RetryPolicy.run_of_reached
    rw [lastOf_eq key hc hcodec hw hcost, elapsed_eq key hc hcodec hw hpos]
    apply decide_eq_true
    have hcosts := min_sum_le (List.range' 1 c.last) c.cost Duration.maxTicks
    have hpauses := min_sum_le (List.range' 1 (c.last - 1)) c.pause Duration.maxTicks
    rw [total] at h
    omega
  · -- Up to the first attempt that takes as long as any timer, all attempts are as they should be.
    have hexists : ∃ i, 0 < i ∧ i ≤ c.last ∧ Duration.maxTicks ≤ c.cost i := by
      push Not at hcost
      exact hcost
    obtain ⟨hfirst, hfirstLe, hlong⟩ := Nat.find_spec hexists
    have hearlier := fun i => @Nat.find_min _ _ hexists i
    generalize Nat.find hexists = first at hfirst hfirstLe hlong hearlier
    refine RetryPolicy.run_of_not_in_time _ w c.policy _ op hfirst (Nat.le_trans hfirstLe hle) ?_ ?_
    · intro i hi hlt
      have hshort : c.cost i < Duration.maxTicks := by
        have hnot := hearlier i hlt
        omega
      rw [value_answer key hc hcodec hw hi hshort]
      exact c.isTransient_of_lt_last hi (Nat.lt_of_lt_of_le hlt hfirstLe)
    · apply decide_eq_true
      have hanswer := millis_answer key hc hcodec hw hfirst
      rw [Nat.min_eq_right hlong] at hanswer
      rw [elapsed, hanswer]
      omega

end

/-- A run that comes to what its last attempt comes to, after the total time, is responded to as the
course says. -/
theorem respond_effective (events : List Log.Event) :
    let outcome := App.respond c.op c.path ⟨some (c.effective c.last), c.total, events⟩
    outcome.response = c.response ∧ outcome.millis = c.total := by
  intro outcome
  cases hlast : c.effective c.last with
  | ok body => simp only [outcome, App.respond, response, hlast, and_self]
  | error e => simp only [outcome, App.respond, response, hlast, and_self]

/-- Without any rounding, the waits of a course in time are those of the policy, if its first one is
in whole milliseconds. -/
theorem pause_mul (hbase : 1000000 ∣ c.policy.baseDelay.toNanos) (h : c.total < requestTimeout)
    {n : Nat} (hpos : 0 < n) (hlast : n < c.last) :
    c.pause n * 1000000 = (c.policy.delayAfter n).toNanos := by
  have hmem : n ∈ List.range' 1 (c.last - 1) := List.mem_range'_1.mpr (by omega)
  have hpause : c.pause n ≤ c.total :=
    Nat.le_trans (List.le_sum_of_mem (List.mem_map_of_mem hmem)) (Nat.le_add_left ..)
  have hscale := Duration.toNanos_scale c.policy.baseDelay
    (1 <<< min (n - 1) RetryPolicy.maxDoublings)
  -- The longest span takes longer than the request may.
  have hlongest : Duration.longest.toNanos = 18446744073709551615 * 1000000000 + 999999999 := rfl
  have htimeout : requestTimeout = 60000 := rfl
  have hshort : (c.policy.delayAfter n).toNanos ≤ c.pause n * 1000000 := by
    rw [pause, Duration.wholeMillis]
    omega
  have hexact : (c.policy.delayAfter n).toNanos =
      c.policy.baseDelay.toNanos * 1 <<< min (n - 1) RetryPolicy.maxDoublings := by
    rw [RetryPolicy.delayAfter] at hshort ⊢
    omega
  apply Duration.wholeMillis_mul_of_dvd
  rw [hexact]
  exact Dvd.dvd.mul_right hbase _

end Course

/-- **A request over a scripted service follows its course.** Let a request reach its first call to
the key service. If its course is through before the time of a request is over, then as many calls
are made as the course has attempts, the response is that of the last one, and the request takes the
total time of the course. Otherwise it is answered with a timeout. For a policy in whole
milliseconds no wait of such a course is rounded. -/
theorem handle_scripted (app : App (Script × List Call)) (algorithm : Cipher.Algorithm)
    (timeout : UInt64)
    (hcodec : app.codec = ⟨Script.wrapper.recorded, ⟨algorithm, .ofMillis timeout⟩⟩) (r : Request)
    (w : World (Script × List Call)) (hcall : (app.handle r w).2.kms.2 ≠ w.kms.2) :
    ∃ op path key, r.path = op.path ∧ app.pathAndKey r = .ok (path, key) ∧
      let c : Course := ⟨algorithm, timeout, app.retry, op, path, r.body, w.entropy, w.kms.1⟩
      (c.total < requestTimeout →
        (app.handle r w).2.kms.2.length = w.kms.2.length + c.last ∧
          (app.handle r w).1.response = c.response ∧ (app.handle r w).1.millis = c.total) ∧
      (requestTimeout ≤ c.total → (app.handle r w).1.response = .timedOut) ∧
      (1000000 ∣ app.retry.baseDelay.toNanos → c.total < requestTimeout →
        ∀ n, 0 < n → n < c.last → c.pause n * 1000000 = (app.retry.delayAfter n).toNanos) := by
  obtain ⟨op, path, key, hmethod, hroute, hlimit, henabled, hpath⟩ :=
    app.exists_of_handle_ne r w fun heq => hcall (by rw [heq])
  refine ⟨op, path, key, hroute, hpath, ?_⟩
  intro c
  have hoperate := app.operate_of_pathAndKey op r w hlimit henabled hpath
  rw [app.handle_of_path op r hmethod hroute, hoperate] at hcall ⊢
  have hw : c.At 0 w := ⟨rfl, (Script.after_zero w.kms.1).symm⟩
  have hc : c.Reaches := by
    by_contra hnot
    obtain ⟨e, hnow, hfinal, hkms⟩ := Course.attempt_of_not_reaches key hnot hcodec
    have hrun := RetryPolicy.run_of_now _ w app.retry (some requestTimeout) op.name rfl hnow hfinal
    rw [hrun] at hcall
    exact hcall (congrArg Prod.snd hkms)
  refine ⟨?_, ?_, ?_⟩
  · intro htotal
    obtain ⟨events, hrun⟩ := Course.run_of_total_lt key hc hcodec hw htotal op.name
    obtain ⟨-, hcalls⟩ := Course.at_stateAfter key hc hcodec hw c.last
    rw [hrun]
    obtain ⟨hresponse, hmillis⟩ :=
      c.respond_effective (events ++ app.codecLog op key path r.body w)
    exact ⟨hcalls, hresponse, hmillis⟩
  · intro htotal
    have hrun := Course.run_of_le_total key hc hcodec hw htotal op.name
    dsimp only
    rw [App.respond_of_none]
    exact hrun
  · intro hbase htotal n hpos hlast
    exact c.pause_mul hbase htotal hpos hlast

/-- An object that is sealed at the third attempt: the service is unavailable at first, and its next
reply comes after the time limit. -/
theorem handle_scripted_third_attempt :
    let app : App (Script × List Call) :=
      ⟨⟨Script.wrapper.recorded, ⟨.aes256GcmSiv, .ofMillis 10000⟩⟩, .always ⟨.gcp, "k"⟩,
        "x-object-path", .standard, 1024, true⟩
    let headers := [("x-object-path", ofString "gs://bucket/run")]
    let r : Request := ⟨"POST", "/seal", headers, ofString "weights"⟩
    let script : Script := [⟨5, .fail (.unavailable "busy")⟩, ⟨20000, .echo⟩, ⟨10000, .echo⟩]
    let w : World (Script × List Call) := ⟨.cyclic #[], (script, [])⟩
    (app.handle r w).2.kms.2 ≠ w.kms.2 ∧
      ∃ op path key, r.path = op.path ∧ app.pathAndKey r = .ok (path, key) ∧
        let c : Course := ⟨.aes256GcmSiv, 10000, app.retry, op, path, r.body, w.entropy, w.kms.1⟩
        (c.total < requestTimeout →
          (app.handle r w).2.kms.2.length = w.kms.2.length + c.last ∧
            (app.handle r w).1.response = c.response ∧ (app.handle r w).1.millis = c.total) ∧
        (requestTimeout ≤ c.total → (app.handle r w).1.response = .timedOut) ∧
        (1000000 ∣ app.retry.baseDelay.toNanos → c.total < requestTimeout →
          ∀ n, 0 < n → n < c.last → c.pause n * 1000000 = (app.retry.delayAfter n).toNanos) := by
  intro app headers r script w
  have hcall : (app.handle r w).2.kms.2 ≠ w.kms.2 := by decide +kernel
  exact ⟨hcall, handle_scripted app .aes256GcmSiv 10000 rfl r w hcall⟩

end PathSeal.Service
