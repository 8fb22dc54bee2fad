import PathSeal.Proofs.Config.Settings
import PathSeal.Proofs.Duration
import PathSeal.Proofs.Service.Responses
import PathSeal.Startup

/-!
# PathSeal.Proofs.Service.Deadline

What the settings say of the time that the attempts of one request may take
(`Config.longestRun`), and what comes of it under the one time that every request has.
Nothing relates the two: settings that pass the check may let a request run out of
its time while attempts remain.

Attempts start no later than `Config.latestStart` says, whatever the key service does
(`started_mul_le`), and just then if it never answers (`le_started_mul`). So both bounds
of `deadline_of_longestRun` are sharp.

Timers run on whole milliseconds, up to thirty years. That the waits are not rounded up
is because the settings are in milliseconds; that they may be cut down does not matter,
since the time of a request is over long before (`min_le_ticks_mul`).
-/

namespace PathSeal

open Kms (World Wrapper)

/-! ## Settings -/

namespace Config

variable (c : Config)

/-- The time limit of a call, in nanoseconds. -/
def callNanos : Nat := (Duration.ofMillis c.kmsTimeoutMillis).toNanos

/-- The latest that an attempt can start after `n` others, in nanoseconds: each of them takes its
time limit and is followed by its wait. -/
def latestStart (n : Nat) : Nat :=
  n * c.callNanos + ((List.range' 1 n).map fun k => (c.retryPolicy.delayAfter k).toNanos).sum

/-- The longest that all attempts of a request can take, in nanoseconds. -/
def longestRun : Nat :=
  c.kmsMaxAttempts.toNat * c.callNanos +
    ((List.range' 1 (c.kmsMaxAttempts.toNat - 1)).map fun k =>
      (c.retryPolicy.delayAfter k).toNanos).sum

@[simp] theorem latestStart_zero : c.latestStart 0 = 0 := by simp [latestStart]

/-- The next attempt can start after the time limit and the wait of another one. -/
theorem latestStart_succ (n : Nat) :
    c.latestStart (n + 1) =
      c.latestStart n + c.callNanos + (c.retryPolicy.delayAfter (n + 1)).toNanos := by
  have hconcat : List.range' 1 (n + 1) = List.range' 1 n ++ [n + 1] := by
    rw [List.range'_1_concat, Nat.add_comm 1 n]
  rw [latestStart, latestStart, hconcat, Nat.succ_mul]
  simp only [List.map_append, List.sum_append, List.map_singleton, List.sum_singleton]
  omega

theorem latestStart_mono {m n : Nat} (h : m ≤ n) : c.latestStart m ≤ c.latestStart n := by
  induction h with
  | refl => exact Nat.le_refl _
  | step _ ih =>
    rw [latestStart_succ]
    omega

section

variable {c} (hattempts : c.kmsMaxAttempts ≠ 0)

include hattempts

theorem kmsMaxAttempts_pos : 0 < c.kmsMaxAttempts.toNat :=
  Nat.pos_of_ne_zero fun hzero => hattempts (UInt32.toNat_inj.mp hzero)

theorem mostAttempts_retryPolicy : c.retryPolicy.mostAttempts = c.kmsMaxAttempts.toNat := by
  rw [RetryPolicy.mostAttempts, retryPolicy]
  exact Nat.max_eq_right (kmsMaxAttempts_pos hattempts)

/-- The last attempt is through a time limit after it can start. -/
theorem longestRun_eq :
    c.longestRun = c.latestStart (c.kmsMaxAttempts.toNat - 1) + c.callNanos := by
  obtain ⟨n, hn⟩ := Nat.exists_eq_succ_of_ne_zero (Nat.ne_of_gt (kmsMaxAttempts_pos hattempts))
  rw [longestRun, latestStart, hn, Nat.succ_sub_one, Nat.succ_mul]
  omega

end

/-- A service with these settings: with their codec and their attempts. -/
structure Governs (app : Service.App κ) : Prop where
  options : app.codec.options = c.codecOptions
  retry : app.retry = c.retryPolicy

/-- The service that starts has the settings that it starts with. -/
theorem governs_app (map : KeyMap) (b : Kms.Backends σ τ) : c.Governs (Startup.app c map b) :=
  ⟨rfl, rfl⟩

end Config

/-! ## Attempts -/

/-- A key service that does not answer any call within some milliseconds. -/
structure Kms.Wrapper.Hangs (wrapper : Wrapper κ) (millis : Nat) : Prop where
  wrap : ∀ key dek w, millis < (wrapper.wrap key dek w).1.millis
  unwrap : ∀ key wrapped w, millis < (wrapper.unwrap key wrapped w).1.millis

/-- A key service that says after some milliseconds that it is unavailable. -/
def Kms.Wrapper.busy (millis : Nat) : Wrapper Unit where
  wrap _ _ w := (⟨.error (.unavailable "busy"), millis⟩, w)
  unwrap _ _ w := (⟨.error (.unavailable "busy"), millis⟩, w)

theorem Kms.Wrapper.hangs_busy {limit millis : Nat} (h : limit < millis) :
    (Wrapper.busy millis).Hangs limit :=
  ⟨fun _ _ _ => h, fun _ _ _ => h⟩

namespace Service

open Bytes
open Envelope (Encryptable HasLayout)
open RetryPolicy (stateAfter answer started elapsed reached tries isTransient)

namespace App

section

variable (app : App κ) {op : Operation} (key : Key.Handle) {path : String} {body : Bytes}

/-- An attempt that does not get as far as its call is refused at once, and for good. -/
theorem attempt_of_not_reaches (h : ¬op.Reaches path body) (w : World κ) :
    ∃ e, (app.attempt op key path body w).1 = .now (.error e) ∧ e.isRetryable = false := by
  by_cases hrefused : path = "" ∨ op = .opening ∧ ¬HasLayout body
  · obtain ⟨e, -, hfinal, hattempt⟩ := app.attempt_of_refused key hrefused
    exact ⟨e, congrArg Prod.fst (hattempt w), hfinal⟩
  · rw [not_or] at hrefused
    obtain ⟨hpath, hlayout⟩ := hrefused
    cases op with
    | sealing =>
      have hnot : ¬Encryptable path body := fun hlengths => h ⟨hpath, hlengths⟩
      rw [attempt, app.codec.sealToBytes_of_not_encryptable key path body w hpath hnot]
      exact ⟨_, rfl, Envelope.Error.isRetryable_ofCipher .primitive⟩
    | opening => exact absurd ⟨hpath, by simpa using hlayout⟩ h

/-- So attempts that are cut off do get as far. -/
theorem reaches_of_outcome_none {w : World κ}
    (h : (app.retry.run (some requestTimeout) op.name (app.attempt op key path body) w).1.outcome =
      none) : op.Reaches path body := by
  by_contra hnot
  obtain ⟨e, hnow, hfinal⟩ := app.attempt_of_not_reaches key hnot w
  rw [RetryPolicy.run_of_now _ w app.retry (some requestTimeout) op.name rfl hnow hfinal] at h
  contradiction

/-- And so do the attempts of a request that makes a call. -/
theorem exists_of_calls_ne {r : Request} {w : World κ} (h : (app.calls r w).length ≠ 0) :
    ∃ op path key, app.codecCall r = some (op, path, key) ∧ op.Reaches path r.body := by
  cases hcall : app.codecCall r with
  | none =>
    rw [app.calls_of_codecCall_none hcall] at h
    contradiction
  | some call =>
    obtain ⟨op, path, key⟩ := call
    refine ⟨op, path, key, rfl, ?_⟩
    by_contra hnot
    rw [app.length_calls hcall w, if_neg hnot] at h
    contradiction

/-- One that does takes as long as its call is waited for. -/
theorem exists_millis_attempt (h : op.Reaches path body) (w : World κ) :
    ∃ reply, (∀ millis, app.codec.wrapper.Hangs millis → millis < reply) ∧
      (app.attempt op key path body w).1.millis =
        min reply app.codec.options.kmsTimeout.ticks ∧
      (app.codec.options.kmsTimeout.ticks < reply →
        isTransient (app.attempt op key path body w).1.value) := by
  cases op with
  | sealing =>
    obtain ⟨hpath, hlengths⟩ := h
    rw [attempt, app.codec.sealToBytes_of_encryptable key path body w hpath hlengths,
      Envelope.Codec.wrapAnswer]
    refine ⟨_, fun millis hhangs => hhangs.wrap .., Envelope.millis_bounded .., ?_⟩
    intro hlate
    rw [Envelope.bounded_of_lt "wrap" hlate]
    rfl
  | opening =>
    obtain ⟨hpath, hlayout⟩ := h
    obtain ⟨e, he⟩ := (Envelope.exists_ofBytes_iff body).mpr hlayout
    rw [attempt, app.codec.openBytes_of_layout key path w hpath he, Envelope.Codec.unwrapAnswer]
    refine ⟨_, fun millis hhangs => hhangs.unwrap .., Envelope.millis_bounded .., ?_⟩
    intro hlate
    rw [Envelope.bounded_of_lt "unwrap" hlate]
    rfl

end

section

variable {app : App κ} {c : Config} (hc : c.Governs app) (op : Operation) (key : Key.Handle)
  (path : String) (body : Bytes) (w : World κ)

include hc

theorem kmsTimeout_of_governs :
    app.codec.options.kmsTimeout = .ofMillis c.kmsTimeoutMillis := by
  rw [hc.options]
  rfl

/-- An attempt takes no longer than the time limit of a call. -/
theorem millis_attempt_mul_le :
    (app.attempt op key path body w).1.millis * 1000000 ≤ c.callNanos := by
  have hlimit := Duration.ticks_ofMillis_mul_le c.kmsTimeoutMillis
  rw [← kmsTimeout_of_governs hc] at hlimit
  rw [Config.callNanos, ← kmsTimeout_of_governs hc]
  by_cases hreaches : op.Reaches path body
  · obtain ⟨reply, -, hmillis, -⟩ := app.exists_millis_attempt key hreaches w
    rw [hmillis]
    exact Nat.le_trans (Nat.mul_le_mul_right _ (Nat.min_le_right ..)) hlimit
  · obtain ⟨e, hnow, -⟩ := app.attempt_of_not_reaches key hreaches w
    rw [hnow, Kms.Timed.now, Nat.zero_mul]
    exact Nat.zero_le _

/-- An attempt starts no later than the settings say. -/
theorem started_mul_le (n : Nat) :
    started (app.attempt op key path body) w c.retryPolicy n * 1000000 ≤ c.latestStart n := by
  induction n with
  | zero => simp [started]
  | succ n ih =>
    have hanswer := millis_attempt_mul_le hc op key path body
      (stateAfter (app.attempt op key path body) w n)
    have hwait := Duration.ticks_scale_ofMillis_mul_le c.kmsRetryBaseMillis
      (1 <<< min n RetryPolicy.maxDoublings)
    have hdelay : c.retryPolicy.delayAfter (n + 1) = (Duration.ofMillis c.kmsRetryBaseMillis).scale
        (1 <<< min n RetryPolicy.maxDoublings) := rfl
    rw [started, Config.latestStart_succ, hdelay, answer, Nat.add_sub_cancel, Nat.add_mul,
      Nat.add_mul]
    exact Nat.add_le_add (Nat.add_le_add ih hanswer) hwait

/-- It is through no later than a time limit after that. -/
theorem elapsed_mul_le (n : Nat) :
    elapsed (app.attempt op key path body) w c.retryPolicy (n + 1) * 1000000 ≤
      c.latestStart n + c.callNanos := by
  have hstart := started_mul_le hc op key path body w n
  have hanswer := millis_attempt_mul_le hc op key path body
    (stateAfter (app.attempt op key path body) w n)
  rw [elapsed, answer, Nat.add_sub_cancel, Nat.add_mul]
  exact Nat.add_le_add hstart hanswer

variable {op} {path} {body} (hreaches : op.Reaches path body)
  (hhangs : app.codec.wrapper.Hangs (Duration.ofMillis c.kmsTimeoutMillis).ticks)

include hreaches hhangs

/-- If the key service never answers, an attempt takes the whole time limit and may be followed by
another one. -/
theorem attempt_of_hangs :
    (app.attempt op key path body w).1.millis = (Duration.ofMillis c.kmsTimeoutMillis).ticks ∧
      isTransient (app.attempt op key path body w).1.value := by
  obtain ⟨reply, hlate, hmillis, htransient⟩ := app.exists_millis_attempt key hreaches w
  rw [kmsTimeout_of_governs hc] at hmillis htransient
  have hlate := hlate _ hhangs
  exact ⟨hmillis.trans (Nat.min_eq_right (Nat.le_of_lt hlate)), htransient hlate⟩

/-- So attempts start just when the settings say, until the time of any timer is over. -/
theorem le_started_mul (n : Nat) :
    min (c.latestStart n) (Duration.maxTicks * 1000000) ≤
      started (app.attempt op key path body) w c.retryPolicy n * 1000000 := by
  induction n with
  | zero => simp
  | succ n ih =>
    have hanswer := (attempt_of_hangs hc key (stateAfter (app.attempt op key path body) w n)
      hreaches hhangs).1
    have hcall := Duration.min_le_ticks_mul (.ofMillis c.kmsTimeoutMillis)
    have hwait := Duration.min_le_ticks_mul (c.retryPolicy.delayAfter (n + 1))
    rw [started, Config.latestStart_succ, Config.callNanos, answer, Nat.add_sub_cancel, hanswer,
      Nat.add_mul, Nat.add_mul]
    exact Duration.min_add_le (Duration.min_add_le ih hcall) hwait

/-- And they are through a time limit after that. -/
theorem le_elapsed_mul (n : Nat) :
    min (c.latestStart n + c.callNanos) (Duration.maxTicks * 1000000) ≤
      elapsed (app.attempt op key path body) w c.retryPolicy (n + 1) * 1000000 := by
  have hstart := le_started_mul hc key w hreaches hhangs n
  have hanswer := (attempt_of_hangs hc key (stateAfter (app.attempt op key path body) w n)
    hreaches hhangs).1
  have hcall := Duration.min_le_ticks_mul (.ofMillis c.kmsTimeoutMillis)
  rw [elapsed, answer, Nat.add_sub_cancel, Config.callNanos, hanswer, Nat.add_mul]
  exact Duration.min_add_le hstart hcall

end

/-! ## Requests -/

section

variable {app : App κ} {c : Config} (hc : c.Governs app) (hattempts : c.kmsMaxAttempts ≠ 0)

/-- The time of a request is over if a span that exceeds it is, even if timers cut it down. -/
theorem requestTimeout_le_of_min_le {nanos millis : Nat} (h : requestTimeout * 1000000 ≤ nanos)
    (hmillis : min nanos (Duration.maxTicks * 1000000) ≤ millis * 1000000) :
    requestTimeout ≤ millis := by
  have hcap : requestTimeout * 1000000 ≤ Duration.maxTicks * 1000000 := by decide
  exact Nat.le_of_mul_le_mul_right (Nat.le_trans (Nat.le_min.mpr ⟨h, hcap⟩) hmillis) (by decide)

include hc hattempts

variable {op : Operation} {path : String} {key : Key.Handle} {r : Request} {w : World κ}

/-- Attempts that are cut off take the longest that they can take, and more than that without their
last time limit if others remain. -/
theorem le_longestRun_of_outcome_none
    (h : (app.retry.run (some requestTimeout) op.name (app.attempt op key path r.body)
      w).1.outcome = none) :
    let n := tries (app.attempt op key path r.body) app.retry (some requestTimeout) op.name w
    n ≤ c.kmsMaxAttempts.toNat ∧ requestTimeout * 1000000 ≤ c.longestRun ∧
      (n < c.kmsMaxAttempts.toNat →
        requestTimeout * 1000000 ≤ c.latestStart (c.kmsMaxAttempts.toNat - 1)) := by
  rw [hc.retry] at h ⊢
  intro n
  let operation := app.attempt op key path r.body
  obtain ⟨hpos, hle, -, hlate⟩ := RetryPolicy.tries_of_outcome_none _ c.retryPolicy _ op.name w h
  rw [Config.mostAttempts_retryPolicy hattempts] at hle hlate
  obtain ⟨m, hm⟩ := Nat.exists_eq_succ_of_ne_zero (Nat.ne_of_gt hpos)
  have hnext (hlt : n < c.kmsMaxAttempts.toNat) :
      requestTimeout * 1000000 ≤ c.latestStart (c.kmsMaxAttempts.toNat - 1) := by
    have hstarted : requestTimeout ≤ started operation w c.retryPolicy n := by
      rcases hlate with hreach | ⟨-, hreach⟩
      · have hthrough := RetryPolicy.elapsed_le_started operation w c.retryPolicy m
        rw [← Nat.succ_eq_add_one, ← hm] at hthrough
        exact Nat.le_trans (of_decide_eq_true hreach) hthrough
      · exact of_decide_eq_true hreach
    calc requestTimeout * 1000000
        ≤ started operation w c.retryPolicy n * 1000000 := Nat.mul_le_mul_right _ hstarted
      _ ≤ c.latestStart n := started_mul_le hc op key path r.body w n
      _ ≤ c.latestStart (c.kmsMaxAttempts.toNat - 1) :=
          c.latestStart_mono (Nat.le_sub_one_of_lt hlt)
  refine ⟨hle, ?_, hnext⟩
  rw [Config.longestRun_eq hattempts]
  rcases Nat.lt_or_eq_of_le hle with hlt | heq
  · exact Nat.le_trans (hnext hlt) (Nat.le_add_right _ _)
  · rcases hlate with hreach | ⟨hlt, -⟩
    · calc requestTimeout * 1000000
          ≤ elapsed operation w c.retryPolicy (m + 1) * 1000000 := by
            rw [hm] at hreach
            exact Nat.mul_le_mul_right _ (of_decide_eq_true hreach)
        _ ≤ c.latestStart m + c.callNanos := elapsed_mul_le hc op key path r.body w m
        _ = c.latestStart (c.kmsMaxAttempts.toNat - 1) + c.callNanos := by
            rw [← heq, hm, Nat.succ_sub_one]
    · exact absurd heq (Nat.ne_of_lt hlt)

/-- If the key service never answers, attempts that can take the time of a request are cut off, and
while others remain if the last one cannot start in it. -/
theorem outcome_none_of_le_longestRun (hreaches : op.Reaches path r.body)
    (hhangs : app.codec.wrapper.Hangs (Duration.ofMillis c.kmsTimeoutMillis).ticks)
    (h : requestTimeout * 1000000 ≤ c.longestRun) :
    let operation := app.attempt op key path r.body
    (app.retry.run (some requestTimeout) op.name operation w).1.outcome = none ∧
      (requestTimeout * 1000000 ≤ c.latestStart (c.kmsMaxAttempts.toNat - 1) →
        tries operation app.retry (some requestTimeout) op.name w < c.kmsMaxAttempts.toNat) := by
  rw [hc.retry]
  intro operation
  have htransient (n : Nat) : isTransient (answer operation w n).value :=
    (attempt_of_hangs hc key _ hreaches hhangs).2
  have hmost := Config.mostAttempts_retryPolicy hattempts
  have hpos := Config.kmsMaxAttempts_pos hattempts
  have hnone : (c.retryPolicy.run (some requestTimeout) op.name operation w).1.outcome = none := by
    refine RetryPolicy.run_of_not_in_time operation w c.retryPolicy _ op.name hpos
      (Nat.le_of_eq hmost.symm) (fun i _ _ => htransient i) ?_
    have hthrough := le_elapsed_mul hc key w hreaches hhangs (c.kmsMaxAttempts.toNat - 1)
    rw [← Config.longestRun_eq hattempts, Nat.sub_add_cancel hpos] at hthrough
    exact decide_eq_true (requestTimeout_le_of_min_le h hthrough)
  refine ⟨hnone, ?_⟩
  intro hlatest
  obtain ⟨-, hle, hbefore, -⟩ :=
    RetryPolicy.tries_of_outcome_none operation c.retryPolicy _ op.name w hnone
  rw [hmost] at hle
  have hstarted := requestTimeout_le_of_min_le hlatest
    (le_started_mul hc key w hreaches hhangs (c.kmsMaxAttempts.toNat - 1))
  -- The last attempt would have to start in time, after some others.
  refine Nat.lt_of_le_of_ne hle ?_
  intro hall
  have hothers : c.kmsMaxAttempts.toNat - 1 ≠ 0 := by
    intro hzero
    rw [hzero] at hstarted
    contradiction
  have hintime := hbefore (c.kmsMaxAttempts.toNat - 1) (Nat.pos_of_ne_zero hothers)
    (by rw [hall]; exact Nat.sub_one_lt_of_lt hpos)
  exact of_decide_eq_false hintime hstarted

end

end App

/-- **The time of a request covers all attempts only if the settings see to it.** Nothing in the
check of the settings does. Whatever the key service does, a request that is answered with a timeout
tells of settings whose longest run takes all of its time; and if it is answered so while attempts
remain, the longest run takes even more than that, by the time limit of a call. If the service never
answers, settings whose longest run is that long do come to that, with every request that makes a
call at all. -/
theorem deadline_of_longestRun (c : Config) (hvalid : c.validate = .ok ()) (app : App κ)
    (hc : c.Governs app) (r : Request) (w : World κ) :
    let outcome := (app.handle r w).1
    let calls := (app.calls r w).length
    let time := requestTimeout * 1000000
    (outcome.response.status = 408 →
      time ≤ c.longestRun ∧ calls ≤ c.kmsMaxAttempts.toNat ∧
        (calls < c.kmsMaxAttempts.toNat → time + c.callNanos ≤ c.longestRun)) ∧
    (app.codec.wrapper.Hangs (Duration.ofMillis c.kmsTimeoutMillis).ticks → calls ≠ 0 →
      time ≤ c.longestRun →
      outcome.response.status = 408 ∧
        (time + c.callNanos ≤ c.longestRun → calls < c.kmsMaxAttempts.toNat)) := by
  intro outcome calls time
  obtain ⟨-, map, -, -, -, hattempts, -⟩ := (Config.validate_eq_ok_iff c).mp hvalid
  have hlongest := Config.longestRun_eq hattempts
  constructor
  · intro htimedOut
    obtain ⟨op, path, key, hcall, hnone⟩ := (app.status_eq_timedOut_iff r w).mp htimedOut
    have hreaches := app.reaches_of_outcome_none key hnone
    have hcalls := (app.length_calls hcall w).trans (if_pos hreaches)
    obtain ⟨hle, hlong, hremain⟩ := App.le_longestRun_of_outcome_none hc hattempts hnone
    rw [← hcalls] at hle hremain
    refine ⟨hlong, hle, fun hlt => ?_⟩
    rw [hlongest]
    exact Nat.add_le_add_right (hremain hlt) _
  · intro hhangs hcalled hlong
    obtain ⟨op, path, key, hcall, hreaches⟩ := app.exists_of_calls_ne hcalled
    have hcalls := (app.length_calls hcall w).trans (if_pos hreaches)
    obtain ⟨hnone, hremain⟩ :=
      App.outcome_none_of_le_longestRun hc hattempts hreaches hhangs hlong
    refine ⟨(app.status_eq_timedOut_iff r w).mpr ⟨op, path, key, hcall, hnone⟩, ?_⟩
    intro hlonger
    rw [hlongest] at hlonger
    rw [← hcalls] at hremain
    exact hremain (Nat.le_of_add_le_add_right hlonger)

/-- Settings with one master key and with three attempts at a call. -/
def Config.threeAttempts (kmsTimeoutMillis : UInt64) : Config where
  keyMapping := "*:gcp-kms://k"
  algorithm := .aes256GcmSiv
  kmsTimeoutMillis
  kmsMaxAttempts := 3
  kmsRetryBaseMillis := 100
  listenPort := 9080
  objectPathHeader := "X-Object-Path"
  maxObjectBytes := 1024
  encryptionDisabled := false
  verifyKeysOnStartup := true
  cloudEndpoint := Kms.Google.defaultEndpoint
  accessToken := none
  localSeed := none
  telemetryEndpoint := none
  logLevel := "info"

/-- With a time limit of twenty seconds, a request to seal is answered with a timeout if the key
service never answers, but only after all three attempts. -/
theorem deadline_of_longestRun_twenty_seconds :
    let c := Config.threeAttempts 20000
    let app : App Unit :=
      ⟨⟨.busy 20001, c.codecOptions⟩, .always ⟨.gcp, "k"⟩, c.objectPathHeader, c.retryPolicy,
        c.maxObjectBytes, true⟩
    let r : Request :=
      ⟨"POST", "/seal", [("x-object-path", ofString "gs://bucket/run")], ofString "weights"⟩
    let w : World Unit := ⟨.cyclic #[], ()⟩
    c.validate = .ok () ∧ c.longestRun = 60300000000 ∧
      (app.handle r w).1.response.status = 408 ∧ (app.calls r w).length = 3 := by
  intro c app r w
  have hvalid : c.validate = .ok () := by decide +kernel
  have hlongest : c.longestRun = 60300000000 := by decide +kernel
  have hhangs : app.codec.wrapper.Hangs (Duration.ofMillis c.kmsTimeoutMillis).ticks :=
    Wrapper.hangs_busy (by decide +kernel)
  have hcalled : (app.calls r w).length ≠ 0 := by decide +kernel
  obtain ⟨hlate, hcovers⟩ := deadline_of_longestRun c hvalid app ⟨rfl, rfl⟩ r w
  obtain ⟨hstatus, -⟩ := hcovers hhangs hcalled (by rw [hlongest]; decide)
  obtain ⟨-, hle, hremain⟩ := hlate hstatus
  have hall : ¬(app.calls r w).length < 3 := by
    intro hlt
    have hlong := hremain hlt
    rw [hlongest] at hlong
    exact absurd hlong (by decide +kernel)
  exact ⟨hvalid, hlongest, hstatus, Nat.le_antisymm hle (Nat.le_of_not_lt hall)⟩

/-- With thirty seconds the settings pass the check just as well, but the longest run takes more
than the time of a request. If the key service is busy for as long, the request is cut off in the
second of three attempts. -/
theorem longestRun_exceeds_requestTimeout :
    let c := Config.threeAttempts 30000
    let app : App Unit :=
      ⟨⟨.busy 30000, c.codecOptions⟩, .always ⟨.gcp, "k"⟩, c.objectPathHeader, c.retryPolicy,
        c.maxObjectBytes, true⟩
    let r : Request :=
      ⟨"POST", "/seal", [("x-object-path", ofString "gs://bucket/run")], ofString "weights"⟩
    let w : World Unit := ⟨.cyclic #[], ()⟩
    c.validate = .ok () ∧ ¬c.longestRun ≤ requestTimeout * 1000000 ∧
      (app.handle r w).1.response.status = 408 ∧
      (app.calls r w).length = 2 ∧ c.kmsMaxAttempts = 3 := by
  decide +kernel

end Service
end PathSeal
