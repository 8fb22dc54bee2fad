import PathSeal.Duration
import PathSeal.Envelope.Error
import PathSeal.Kms.Wrapper
import PathSeal.Log

/-!
# PathSeal.Retry

Further attempts after a transient fault of the key service, with a wait that
doubles each time. Every other outcome is final: another attempt could not
change it.

The attempts of one run may have to end by a deadline. When it comes, the run is
cut off where it stands; what the attempts did up to then stays done.
-/

namespace PathSeal

open Kms (Timed)

/-- How often and after which waits an operation is tried again. -/
structure RetryPolicy where
  /-- All attempts including the first; there is always a first one. -/
  maxAttempts : UInt32
  /-- The wait before the second attempt. -/
  baseDelay : Duration
deriving DecidableEq

namespace RetryPolicy

/-- Three attempts, with 100 ms before the second. -/
def standard : RetryPolicy where
  maxAttempts := 3
  baseDelay := .ofMillis 100

/-- The wait doubles at most this many times. -/
def maxDoublings : Nat := 10

/-- The wait after failed attempt number `attempt`, counted from 1. -/
def delayAfter (policy : RetryPolicy) (attempt : Nat) : Duration :=
  policy.baseDelay.scale (1 <<< min (attempt - 1) maxDoublings)

/-- The event of a failed attempt that is followed by another. The wait is noted in milliseconds,
of which the log has 64 bits. -/
def retryEvent (policy : RetryPolicy) (op : String) (attempt : Nat) (e : Envelope.Error) :
    Log.Event where
  level := .warn
  target := "sealer::retry"
  message := "KMS unavailable, retrying"
  fields :=
    [("op", .text op), ("attempt", .count attempt),
      ("max_attempts", .count policy.maxAttempts.toNat),
      ("delay_ms", .count ((policy.delayAfter attempt).toMillis % UInt64.size)),
      ("error", .text e.message)]

/-- How a run of attempts went. -/
structure Run (α : Type) where
  /-- The last outcome, unless the deadline came first. -/
  outcome : Option (Except Envelope.Error α)
  /-- The time taken in milliseconds. -/
  millis : Nat
  events : List Log.Event

/-- A run with its value changed. -/
def Run.map (f : α → β) (run : Run α) : Run β :=
  ⟨run.outcome.map fun outcome => outcome.map f, run.millis, run.events⟩

/-- A run with more events at its end. -/
def Run.logging (run : Run α) (events : List Log.Event) : Run α :=
  { run with events := run.events ++ events }

/-- Whether a deadline has come after some milliseconds. -/
def reached (deadline : Option Nat) (millis : Nat) : Bool :=
  match deadline with
  | some limit => limit ≤ millis
  | none => false

/-- A run cut off by its deadline. -/
def cutOff (deadline : Option Nat) (millis : Nat) (events : List Log.Event) : Run α :=
  ⟨none, deadline.getD millis, events⟩

/-- Attempt number `attempt` and at most `left` more; time and events so far are given. -/
def attempts (policy : RetryPolicy) (deadline : Option Nat) (op : String)
    (operation : StateM σ (Timed (Except Envelope.Error α))) :
    (left attempt millis : Nat) → List Log.Event → StateM σ (Run α)
  | left, attempt, millis, events => do
    let answer ← operation
    let millis := millis + answer.millis
    if reached deadline millis then return cutOff deadline millis events
    match left with
    | 0 => return ⟨some answer.value, millis, events⟩
    | left + 1 =>
      match answer.value with
      | .ok value => return ⟨some (.ok value), millis, events⟩
      | .error e =>
        if e.isRetryable then
          let events := events ++ [policy.retryEvent op attempt e]
          let millis := millis + (policy.delayAfter attempt).ticks
          if reached deadline millis then return cutOff deadline millis events
          attempts policy deadline op operation left (attempt + 1) millis events
        else return ⟨some (.error e), millis, events⟩

/-- Runs an operation until it succeeds, fails for good, has used up its attempts, or the deadline
comes. Each attempt runs the operation afresh. -/
def run (policy : RetryPolicy) (deadline : Option Nat) (op : String)
    (operation : StateM σ (Timed (Except Envelope.Error α))) : StateM σ (Run α) :=
  policy.attempts deadline op operation (policy.maxAttempts.toNat - 1) 1 0 []

end RetryPolicy
end PathSeal
