import PathSeal.Proofs.Retry.Tries
import PathSeal.Proofs.Service.Draws

/-!
# PathSeal.Proofs.Service.Calls

Which calls a request makes to its key service. A record of the calls changes nothing
else of any request (`handle_recorded`), so what it notes is what the request does
(`App.calls`). A request that reaches the codec makes the calls of its attempts, one
after another (`calls_of_codecCall`); any other request makes none.

What the codec comes to for a request is `App.codecResult`. It is `none` if the
request does not get there, or if it is cut off before.
-/

namespace PathSeal

open Kms (World Timed Call)

/-- The surroundings with a record of calls. -/
def Kms.World.noting (w : World κ) (calls : List Call) : World (κ × List Call) :=
  ⟨w.entropy, (w.kms, calls)⟩

namespace Service

open Envelope (Codec Encryptable HasLayout)

/-- An attempt gets as far as its call: there is a path, and the body can be encrypted or has the
layout of an envelope. -/
def Operation.Reaches (op : Operation) (path : String) (body : Bytes) : Prop :=
  path ≠ "" ∧
    match op with
    | .sealing => Encryptable path body
    | .opening => HasLayout body

instance (op : Operation) (path : String) (body : Bytes) : Decidable (op.Reaches path body) :=
  match op with
  | .sealing => inferInstanceAs (Decidable (_ ∧ Encryptable path body))
  | .opening => inferInstanceAs (Decidable (_ ∧ HasLayout body))

namespace App

open RetryPolicy (stateAfter answer tries)

variable (app : App κ)

/-- The same service with another codec. -/
def withCodec (codec : Codec κ') : App κ' where
  codec
  keyMap := app.keyMap
  pathHeader := app.pathHeader
  retry := app.retry
  maxObjectBytes := app.maxObjectBytes
  encryptionEnabled := app.encryptionEnabled

/-- The same service, with a record of the calls to its key service. -/
def recorded : App (κ × List Call) :=
  app.withCodec app.codec.recorded

/-- The calls that a request makes. -/
def calls (r : Request) (w : World κ) : List Call :=
  (app.recorded.handle r (w.noting [])).2.kms.2

/-- What the codec comes to for a request, if the request gets there and is not cut off. -/
def codecResult (r : Request) (w : World κ) : Option (Except Envelope.Error Bytes) :=
  match app.codecCall r with
  | some (op, path, key) =>
    (app.retry.run (some requestTimeout) op.name (app.attempt op key path r.body) w).1.outcome
  | none => none

/-! ## Attempts -/

section

variable (op : Operation) (key : Key.Handle) (path : String) (body : Bytes)

/-- The calls that one attempt makes: at most one. -/
def attemptCalls (w : World κ) : List Call :=
  match op with
  | .sealing =>
    if path ≠ "" ∧ Encryptable path body then [.wrap key (Codec.drawnKey w).val] else []
  | .opening => Codec.openingCalls key path body

/-- An attempt makes one call if it gets as far, and otherwise none. -/
theorem length_attemptCalls (w : World κ) :
    (attemptCalls op key path body w).length = if op.Reaches path body then 1 else 0 := by
  cases op with
  | sealing =>
    rw [attemptCalls]
    split
    · next h =>
      have hreaches : Operation.sealing.Reaches path body := h
      rw [if_pos hreaches, List.length_singleton]
    · next h =>
      have hnot : ¬Operation.sealing.Reaches path body := h
      rw [if_neg hnot, List.length_nil]
  | opening =>
    rw [attemptCalls, Envelope.Codec.openingCalls]
    by_cases hpath : path = ""
    · have hnot : ¬Operation.opening.Reaches path body := fun h => h.1 hpath
      rw [if_pos hpath, if_neg hnot, List.length_nil]
    · rw [if_neg hpath]
      cases hbytes : Envelope.ofBytes body with
      | ok e =>
        have hlayout := (Envelope.exists_ofBytes_iff body).mp ⟨e, hbytes⟩
        have hreaches : Operation.opening.Reaches path body := ⟨hpath, hlayout⟩
        rw [if_pos hreaches, List.length_singleton]
      | error fault =>
        have hnot : ¬Operation.opening.Reaches path body := by
          rintro ⟨-, hlayout⟩
          obtain ⟨e, he⟩ := (Envelope.exists_ofBytes_iff body).mpr hlayout
          rw [hbytes] at he
          contradiction
        rw [if_neg hnot, List.length_nil]

/-- A record changes nothing of an attempt but itself. -/
theorem attemptLogged_recorded (w : World κ) (calls : List Call) :
    app.recorded.attemptLogged op key path body (w.noting calls) =
      let result := app.attemptLogged op key path body w
      (result.1, result.2.noting (calls ++ attemptCalls op key path body w)) := by
  cases op with
  | sealing => exact Codec.sealLogged_recorded app.codec key path body w calls
  | opening => exact Codec.openLogged_recorded app.codec key path body w calls

theorem attempt_recorded (w : World κ) (calls : List Call) :
    app.recorded.attempt op key path body (w.noting calls) =
      let result := app.attempt op key path body w
      (result.1, result.2.noting (calls ++ attemptCalls op key path body w)) := by
  rw [← through_attemptLogged, ← through_attemptLogged, RetryPolicy.through, RetryPolicy.through,
    attemptLogged_recorded]

/-- After some attempts the record holds the calls of all of them. -/
theorem stateAfter_recorded (w : World κ) (calls : List Call) (n : Nat) :
    stateAfter (app.recorded.attempt op key path body) (w.noting calls) n =
      (stateAfter (app.attempt op key path body) w n).noting
        (calls ++ (List.range n).flatMap fun i =>
          attemptCalls op key path body (stateAfter (app.attempt op key path body) w i)) := by
  induction n with
  | zero => simp [stateAfter]
  | succ n ih =>
    rw [stateAfter, ih, attempt_recorded, List.range_succ, List.flatMap_append,
      List.flatMap_singleton, List.append_assoc]
    rfl

/-- A record changes nothing of a run but itself. -/
theorem run_recorded (w : World κ) (calls : List Call) :
    app.retry.run (some requestTimeout) op.name (app.recorded.attempt op key path body)
        (w.noting calls) =
      let operation := app.attempt op key path body
      let result := app.retry.run (some requestTimeout) op.name operation w
      (result.1, result.2.noting (calls ++
        (List.range (tries operation app.retry (some requestTimeout) op.name w)).flatMap fun i =>
          attemptCalls op key path body (stateAfter operation w i))) := by
  have hsame (n : Nat) : answer (app.recorded.attempt op key path body) (w.noting calls) n =
      answer (app.attempt op key path body) w n := by
    rw [answer, answer, stateAfter_recorded, attempt_recorded]
  obtain ⟨hrun, htries⟩ := RetryPolicy.run_congr _ app.retry (some requestTimeout) op.name w hsame
  apply Prod.ext
  · exact hrun
  · dsimp only
    rw [RetryPolicy.state_run, htries, stateAfter_recorded, RetryPolicy.state_run]

/-- Nor does it change what the codec logs in a run. -/
theorem codecLog_recorded (w : World κ) (calls : List Call) :
    app.recorded.codecLog op key path body (w.noting calls) = app.codecLog op key path body w := by
  have hsame (n : Nat) : answer (app.recorded.attemptLogged op key path body) (w.noting calls) n =
      answer (app.attemptLogged op key path body) w n := by
    have hstate := app.stateAfter_recorded op key path body w calls (n - 1)
    rw [← through_attemptLogged, ← through_attemptLogged, RetryPolicy.stateAfter_through,
      RetryPolicy.stateAfter_through] at hstate
    rw [answer, answer, hstate, attemptLogged_recorded]
  obtain ⟨hrun, -⟩ := RetryPolicy.run_congr _ app.retry (some requestTimeout) op.name w hsame
  exact congrArg (fun run => codecEvents run.outcome) hrun

end

/-! ## Requests -/

variable {r : Request}

/-- A request that fails a stage does not reach the codec. -/
theorem codecCall_eq_none {op : Operation} (hpath : r.path = op.path)
    (h : app.bodyLimit op < r.body.length ∨ app.encryptionEnabled = false ∨
      ∃ e, app.pathAndKey r = .error e) : app.codecCall r = none := by
  rw [codecCall, hpath, Route.ofPath_path]
  dsimp only
  split
  · next hpassed =>
    obtain ⟨-, hlimit, henabled⟩ := hpassed
    rcases h with hlarge | hdisabled | ⟨e, hrefused⟩
    · omega
    · rw [henabled] at hdisabled
      contradiction
    · rw [hrefused]
  · rfl

/-- A request that does not reach the codec is settled at once. Which codec there is, with which key
service, has no part in it. -/
theorem handle_settled (h : app.codecCall r = none) :
    ∃ response, ∀ (κ' : Type) (codec : Codec κ') (w : World κ'),
      (app.withCodec codec).handle r w = (⟨response, 0, []⟩, w) := by
  cases hroute : Route.ofPath r.path with
  | nothing =>
    refine ⟨.notFound, fun κ' codec w => ?_⟩
    rw [handle, hroute]
    rfl
  | health =>
    by_cases hget : r.method = "GET"
    · refine ⟨.json 200 app.health.toJson, fun κ' codec w => ?_⟩
      rw [handle, hroute]
      dsimp only
      rw [if_pos hget]
      rfl
    · by_cases hhead : r.method = "HEAD"
      · refine ⟨{ Response.json 200 app.health.toJson with body := [] }, fun κ' codec w => ?_⟩
        rw [handle, hroute]
        dsimp only
        rw [if_neg hget, if_pos hhead]
        rfl
      · refine ⟨.methodNotAllowed "GET,HEAD", fun κ' codec w => ?_⟩
        rw [handle, hroute]
        dsimp only
        rw [if_neg hget, if_neg hhead]
        rfl
  | operation op =>
    by_cases hmethod : r.method = "POST"
    · have hhandle (κ' : Type) (codec : Codec κ') : (app.withCodec codec).handle r =
          (app.withCodec codec).operate op r := by
        rw [(app.withCodec codec).handle_of_route op r hroute, if_pos hmethod]
      by_cases hlimit : app.bodyLimit op < r.body.length
      · refine ⟨.tooLarge, fun κ' codec w => ?_⟩
        rw [hhandle]
        exact (app.withCodec codec).operate_of_tooLarge op r w hlimit
      · cases henabled : app.encryptionEnabled with
        | false =>
          refine ⟨.octets r.body, fun κ' codec w => ?_⟩
          rw [hhandle]
          exact (app.withCodec codec).operate_of_disabled op r w (Nat.le_of_not_lt hlimit) henabled
        | true =>
          cases hpath : app.pathAndKey r with
          | error e =>
            refine ⟨.ofError e, fun κ' codec w => ?_⟩
            rw [hhandle]
            exact (app.withCodec codec).operate_of_refused op r w (Nat.le_of_not_lt hlimit)
              henabled hpath
          | ok pathKey =>
            have hcall := (app.codecCall_eq_some_iff r op pathKey.1 pathKey.2).mpr
              ⟨hmethod, Route.eq_path_of_ofPath hroute, Nat.le_of_not_lt hlimit, henabled, hpath⟩
            rw [h] at hcall
            contradiction
    · refine ⟨.methodNotAllowed "POST", fun κ' codec w => ?_⟩
      rw [(app.withCodec codec).handle_of_route op r hroute, if_neg hmethod]
      rfl

/-- A request that reaches the codec is what its run comes to. -/
theorem handle_eq_respond {op : Operation} {path : String} {key : Key.Handle}
    (h : app.codecCall r = some (op, path, key)) (w : World κ) :
    app.handle r w =
      let run := app.retry.run (some requestTimeout) op.name (app.attempt op key path r.body) w
      (respond op path (run.1.logging (app.codecLog op key path r.body w)), run.2) := by
  obtain ⟨hmethod, hpath, hlimit, henabled, hkey⟩ := (codecCall_eq_some_iff r op path key).mp h
  rw [app.handle_of_path op r hmethod hpath,
    app.operate_of_pathAndKey op r w hlimit henabled hkey]

theorem outcome_eq_respond {op : Operation} {path : String} {key : Key.Handle}
    (h : app.codecCall r = some (op, path, key)) (w : World κ) :
    (app.handle r w).1 = respond op path
      ((app.retry.run (some requestTimeout) op.name (app.attempt op key path r.body) w).1.logging
        (app.codecLog op key path r.body w)) := by
  rw [app.handle_eq_respond h]

/-- With the log of its attempts the run says it all. -/
theorem handle_eq_settle {op : Operation} {path : String} {key : Key.Handle}
    (h : app.codecCall r = some (op, path, key)) (w : World κ) :
    app.handle r w =
      let run :=
        app.retry.run (some requestTimeout) op.name (app.attemptLogged op key path r.body) w
      (respond op path (settle run.1), run.2) := by
  obtain ⟨hsettle, hstate⟩ := app.settle_run op key path r.body w
  rw [app.handle_eq_respond h]
  exact congrArg₂ (fun run w' => (respond op path run, w')) hsettle.symm hstate.symm

theorem response_eq_respond {op : Operation} {path : String} {key : Key.Handle}
    (h : app.codecCall r = some (op, path, key)) (w : World κ) :
    (app.handle r w).1.response = (respond op path
      (app.retry.run (some requestTimeout) op.name (app.attempt op key path r.body)
        w).1).response := by
  rw [app.outcome_eq_respond h, response_respond_logging]

section

variable {op : Operation} {path : String} {key : Key.Handle}
  (h : app.codecCall r = some (op, path, key)) (w : World κ)

include h

/-- A request that is cut off logs the attempts that are followed by another. -/
theorem outcome_of_none :
    let run := app.retry.run (some requestTimeout) op.name (app.attempt op key path r.body) w
    run.1.outcome = none → (app.handle r w).1 = ⟨.timedOut, run.1.millis, run.1.events⟩ := by
  intro run hrun
  have hlog := app.codecLog_eq_nil op key path r.body w fun bytes => by simp [run, hrun]
  rw [app.outcome_eq_respond h, hlog, RetryPolicy.Run.logging_nil]
  exact respond_of_none op path hrun

/-- One that fails logs its fault after them. -/
theorem outcome_of_error {e : Envelope.Error} :
    let run := app.retry.run (some requestTimeout) op.name (app.attempt op key path r.body) w
    run.1.outcome = some (.error e) →
      (app.handle r w).1 =
        ⟨.ofError (.ofEnvelope e), run.1.millis, run.1.events ++ [faultEvent op path e]⟩ := by
  intro run hrun
  have hlog := app.codecLog_eq_nil op key path r.body w fun bytes => by simp [run, hrun]
  rw [app.outcome_eq_respond h, hlog, RetryPolicy.Run.logging_nil]
  exact respond_of_error op path hrun

/-- One that succeeds logs what the codec has made. -/
theorem outcome_of_ok {bytes : Bytes} :
    let run := app.retry.run (some requestTimeout) op.name (app.attempt op key path r.body) w
    run.1.outcome = some (.ok bytes) →
      ∃ w' event, (app.attemptLogged op key path r.body w').1.value = .ok ⟨bytes, event⟩ ∧
        (app.handle r w).1 = ⟨.octets bytes, run.1.millis, run.1.events ++ [event]⟩ := by
  intro run hrun
  obtain ⟨w', event, hmade, hlog⟩ := app.codecLog_of_ok op key path r.body w hrun
  refine ⟨w', event, hmade, ?_⟩
  rw [app.outcome_eq_respond h, hlog, respond_of_ok]
  · rfl
  · exact hrun

end

/-- A request that does not reach the codec makes no call. -/
theorem calls_of_codecCall_none (h : app.codecCall r = none) (w : World κ) :
    app.calls r w = [] := by
  obtain ⟨response, hsettled⟩ := app.handle_settled h
  rw [calls, recorded, hsettled]
  rfl

/-- A request that reaches the codec makes the calls of its attempts, one after another. -/
theorem calls_of_codecCall {op : Operation} {path : String} {key : Key.Handle}
    (h : app.codecCall r = some (op, path, key)) (w : World κ) :
    app.calls r w =
      let operation := app.attempt op key path r.body
      (List.range (tries operation app.retry (some requestTimeout) op.name w)).flatMap fun i =>
        attemptCalls op key path r.body (stateAfter operation w i) := by
  have hcall : app.recorded.codecCall r = some (op, path, key) := h
  have hrun := app.run_recorded op key path r.body w []
  rw [calls, app.recorded.handle_eq_respond hcall]
  exact congrArg (fun result => result.2.kms.2) hrun

/-- So it makes as many calls as it has attempts, if an attempt gets as far as its call. -/
theorem length_calls {op : Operation} {path : String} {key : Key.Handle}
    (h : app.codecCall r = some (op, path, key)) (w : World κ) :
    (app.calls r w).length =
      if op.Reaches path r.body then
        tries (app.attempt op key path r.body) app.retry (some requestTimeout) op.name w
      else 0 := by
  rw [app.calls_of_codecCall h, List.length_flatMap]
  simp only [length_attemptCalls]
  split
  · simp
  · simp

/-- **A record changes nothing of a request but itself**, and then holds the calls of the request.
-/
theorem handle_recorded (r : Request) (w : World κ) (calls : List Call) :
    app.recorded.handle r (w.noting calls) =
      let result := app.handle r w
      (result.1, result.2.noting (calls ++ app.calls r w)) := by
  cases h : app.codecCall r with
  | none =>
    obtain ⟨response, hsettled⟩ := app.handle_settled h
    have hplain : app.handle r w = (⟨response, 0, []⟩, w) := hsettled κ app.codec w
    rw [recorded, hsettled, hplain, app.calls_of_codecCall_none h, List.append_nil]
  | some call =>
    obtain ⟨op, path, key⟩ := call
    have hcall : app.recorded.codecCall r = some (op, path, key) := h
    have hrun := app.run_recorded op key path r.body w calls
    let log := app.codecLog op key path r.body w
    have hlog := app.codecLog_recorded op key path r.body w calls
    rw [app.recorded.handle_eq_respond hcall, app.handle_eq_respond h, app.calls_of_codecCall h,
      hlog]
    exact congrArg (fun result => (respond op path (result.1.logging log), result.2)) hrun

end App
end Service
end PathSeal
