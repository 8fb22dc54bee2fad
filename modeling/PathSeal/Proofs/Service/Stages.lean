import PathSeal.Proofs.Envelope.Codec
import PathSeal.Proofs.Retry.Tries
import PathSeal.Service.App

/-!
# PathSeal.Proofs.Service.Stages

A request to an operation passes its stages in order. For each stage there is one
statement that says what comes of a request that ends there, and one more for
requests that reach the codec (`operate_of_pathAndKey`).

What the codec logs decides nothing, so a request that reaches it has the response of its
attempts without their log (`App.attempt`). Of a run that succeeds the codec logs one event
(`codecLog_of_ok`), and of any other none.

Of a request to seal or open with encryption only a codec that succeeds gives the
status 200 (`exists_of_status_operate`).
-/

namespace PathSeal.Service

open Envelope (Codec Made)
open Kms (World Timed)

/-! ## Responses -/

namespace Response

theorem contentMd5_octets (body : Bytes) :
    (octets body).contentMd5 = some (Base64.encodeString (Digest.md5 body)) := rfl

theorem status_timedOut_ne : timedOut.status ≠ 200 := by decide

theorem status_tooLarge_ne : tooLarge.status ≠ 200 := by decide

theorem status_ofError_ne (e : Error) : (ofError e).status ≠ 200 := by
  rw [ofError, json]
  cases e <;> simp [Error.status]

end Response

/-! ## Routes -/

/-- The path at which an operation is found. -/
def Operation.path : Operation → String
  | sealing => "/seal"
  | opening => "/open"

namespace App

theorem Route.ofPath_path (op : Operation) : Route.ofPath op.path = .operation op := by
  cases op with
  | sealing => rfl
  | opening => rfl

/-- A path of an operation is written in one way only. -/
theorem Route.eq_path_of_ofPath {path : String} {op : Operation}
    (h : Route.ofPath path = .operation op) : path = op.path := by
  unfold Route.ofPath at h
  split at h
  · next heq =>
    obtain rfl : Operation.sealing = op := Route.operation.inj h
    exact heq
  · split at h
    · next heq =>
      obtain rfl : Operation.opening = op := Route.operation.inj h
      exact heq
    · split at h <;> contradiction

/-! ## Attempts and their log -/

section

variable (app : App κ) (op : Operation) (key : Key.Handle) (path : String) (body : Bytes)
  (w : World κ)

/-- One attempt at an operation, without its log. -/
def attempt : StateM (World κ) (Timed (Except Envelope.Error Bytes)) :=
  match op with
  | .sealing => app.codec.sealToBytes key path body
  | .opening => app.codec.openBytes key path body

/-- What the codec logs in the attempts at an operation. -/
def codecLog : List Log.Event :=
  codecEvents
    (app.retry.run (some requestTimeout) op.name (app.attemptLogged op key path body) w).1.outcome

/-- The log is no part of what an attempt makes. -/
theorem through_attemptLogged :
    RetryPolicy.through Made.bytes (app.attemptLogged op key path body) =
      app.attempt op key path body := by
  funext w
  cases op with
  | sealing =>
    rw [RetryPolicy.through, attemptLogged, Codec.sealLogged_eq, attempt, Codec.sealToBytes_eq]
    rcases app.codec.sealPayload key path body w with ⟨⟨value, millis⟩, w'⟩
    cases value with
    | ok e => rfl
    | error fault => rfl
  | opening =>
    rw [RetryPolicy.through, attemptLogged, attempt]
    cases hbytes : Envelope.ofBytes body with
    | error fault =>
      rw [Codec.openLogged_of_error app.codec key path w hbytes,
        Codec.openBytes_of_error app.codec key path w hbytes]
      rfl
    | ok e =>
      rw [Codec.openLogged_of_ok app.codec key path w hbytes]
      rcases app.codec.openBytes key path body w with ⟨⟨value, millis⟩, w'⟩
      cases value with
      | ok payload => rfl
      | error fault => rfl

/-- The event of what an attempt makes is one of these two, at debug level. -/
theorem message_of_attemptLogged {made : Made}
    (h : (app.attemptLogged op key path body w).1.value = .ok made) :
    made.event.level = .debug ∧
      (made.event.message = "sealed" ∨ made.event.message = "opened") := by
  cases op with
  | sealing =>
    obtain ⟨e, -, -, hevent⟩ := (Codec.sealLogged_eq_ok_iff ..).mp h
    rw [hevent]
    exact ⟨rfl, .inl rfl⟩
  | opening =>
    obtain ⟨e, -, -, hevent⟩ := (Codec.openLogged_eq_ok_iff ..).mp h
    rw [hevent]
    exact ⟨rfl, .inr rfl⟩

theorem run_attempt :
    let run := app.retry.run (some requestTimeout) op.name (app.attempt op key path body) w
    let logged := app.retry.run (some requestTimeout) op.name (app.attemptLogged op key path body) w
    run = (logged.1.map Made.bytes, logged.2) := by
  rw [← through_attemptLogged, RetryPolicy.run_through]

/-- All that the log adds to a run are the events of the codec, at its end. -/
theorem settle_run :
    let run := app.retry.run (some requestTimeout) op.name (app.attempt op key path body) w
    let logged := app.retry.run (some requestTimeout) op.name (app.attemptLogged op key path body) w
    settle logged.1 = run.1.logging (app.codecLog op key path body w) ∧ logged.2 = run.2 := by
  rw [run_attempt]
  exact ⟨rfl, rfl⟩

/-- The codec logs nothing of a run that does not succeed. -/
theorem codecLog_eq_nil
    (h : ∀ made, (app.retry.run (some requestTimeout) op.name (app.attempt op key path body)
      w).1.outcome ≠ some (.ok made)) : app.codecLog op key path body w = [] := by
  rw [run_attempt] at h
  rw [codecLog]
  cases houtcome : (app.retry.run (some requestTimeout) op.name
      (app.attemptLogged op key path body) w).1.outcome with
  | none => rfl
  | some result =>
    cases result with
    | error fault => rfl
    | ok made =>
      refine absurd ?_ (h made.bytes)
      rw [RetryPolicy.Run.map, houtcome]
      rfl

/-- Of one that does it logs one event, that of what one of the attempts has made. -/
theorem codecLog_of_ok {bytes : Bytes}
    (h : (app.retry.run (some requestTimeout) op.name (app.attempt op key path body)
      w).1.outcome = some (.ok bytes)) :
    ∃ w' event, (app.attemptLogged op key path body w').1.value = .ok ⟨bytes, event⟩ ∧
      app.codecLog op key path body w = [event] := by
  rw [run_attempt, RetryPolicy.Run.map, Option.map_eq_some_iff] at h
  obtain ⟨result, houtcome, hbytes⟩ := h
  cases result with
  | error fault => contradiction
  | ok made =>
    obtain ⟨w', hvalue⟩ := RetryPolicy.exists_of_outcome _ _ _ _ _ houtcome
    rw [← Except.ok.inj hbytes, codecLog, houtcome]
    exact ⟨w', made.event, hvalue, rfl⟩

end

/-! ## Stages -/

variable (app : App κ) (op : Operation) (r : Request) (w : World κ)

/-- An operation has to be posted to. -/
theorem handle_of_route (h : Route.ofPath r.path = .operation op) :
    app.handle r = if r.method = "POST" then app.operate op r
      else pure ⟨.methodNotAllowed "POST", 0, []⟩ := by
  rw [handle, h]

/-- A request that is posted to the path of an operation is handled by it. -/
theorem handle_of_path (hmethod : r.method = "POST") (hpath : r.path = op.path) :
    app.handle r = app.operate op r := by
  have hroute : Route.ofPath r.path = .operation op := by rw [hpath, Route.ofPath_path]
  rw [app.handle_of_route op r hroute, if_pos hmethod]

/-- The path and key of a request depend on the first value of its path header only. -/
theorem pathAndKey_congr {r r' : Request}
    (h : r.header? app.pathHeader = r'.header? app.pathHeader) :
    app.pathAndKey r = app.pathAndKey r' := by
  rw [pathAndKey, pathAndKey, objectPath, objectPath, h]

/-- The key of a request is that of its path. -/
theorem resolve_of_pathAndKey {r : Request} {path : String} {key : Key.Handle}
    (h : app.pathAndKey r = .ok (path, key)) : app.keyMap.resolve path = .ok key := by
  rw [pathAndKey] at h
  cases hpath : app.objectPath r with
  | error e =>
    rw [hpath] at h
    contradiction
  | ok found =>
    simp only [hpath, bind, Except.bind] at h
    cases hkey : app.keyMap.resolve found with
    | error e =>
      rw [hkey] at h
      contradiction
    | ok foundKey =>
      rw [hkey] at h
      obtain ⟨rfl, rfl⟩ := Prod.mk.inj (Except.ok.inj h)
      exact hkey

/-- A body beyond the limit is refused. -/
theorem operate_of_tooLarge (h : app.bodyLimit op < r.body.length) :
    app.operate op r w = (⟨.tooLarge, 0, []⟩, w) := by
  rw [operate, if_pos h]
  rfl

/-- Without encryption any other body is given back. -/
theorem operate_of_disabled (hlimit : r.body.length ≤ app.bodyLimit op)
    (h : app.encryptionEnabled = false) :
    app.operate op r w = (⟨.octets r.body, 0, []⟩, w) := by
  rw [operate, if_neg (Nat.not_lt_of_le hlimit), h]
  rfl

/-- With encryption a request without a path or a key is refused. -/
theorem operate_of_refused (hlimit : r.body.length ≤ app.bodyLimit op)
    (henabled : app.encryptionEnabled) {e : Error} (h : app.pathAndKey r = .error e) :
    app.operate op r w = (⟨.ofError e, 0, []⟩, w) := by
  rw [operate, if_neg (Nat.not_lt_of_le hlimit), henabled, h]
  rfl

/-- With a path and a key the codec is run and decides the response. -/
theorem operate_of_pathAndKey (hlimit : r.body.length ≤ app.bodyLimit op)
    (henabled : app.encryptionEnabled) {path : String} {key : Key.Handle}
    (h : app.pathAndKey r = .ok (path, key)) :
    app.operate op r w =
      let run := app.retry.run (some requestTimeout) op.name (app.attempt op key path r.body) w
      (respond op path (run.1.logging (app.codecLog op key path r.body w)), run.2) := by
  obtain ⟨hsettle, hstate⟩ := app.settle_run op key path r.body w
  rw [operate, if_neg (Nat.not_lt_of_le hlimit), henabled, h]
  exact congrArg₂ (fun run w' => (respond op path run, w')) hsettle hstate

/-- A request changes the surroundings only if it is posted to an operation and reaches the
codec. -/
theorem exists_of_handle_ne (h : (app.handle r w).2 ≠ w) :
    ∃ op path key, r.method = "POST" ∧ r.path = op.path ∧ r.body.length ≤ app.bodyLimit op ∧
      app.encryptionEnabled ∧ app.pathAndKey r = .ok (path, key) := by
  cases hroute : Route.ofPath r.path with
  | operation op =>
    rw [app.handle_of_route op r hroute] at h
    by_cases hmethod : r.method = "POST"
    · rw [if_pos hmethod] at h
      by_cases hlimit : r.body.length ≤ app.bodyLimit op
      · cases henabled : app.encryptionEnabled with
        | false =>
          rw [operate_of_disabled app op r w hlimit henabled] at h
          exact absurd rfl h
        | true =>
          cases hpath : app.pathAndKey r with
          | error e =>
            rw [operate_of_refused app op r w hlimit henabled hpath] at h
            exact absurd rfl h
          | ok pathKey =>
            obtain ⟨path, key⟩ := pathKey
            exact ⟨op, path, key, hmethod, Route.eq_path_of_ofPath hroute, hlimit, rfl, rfl⟩
      · rw [operate_of_tooLarge app op r w (Nat.lt_of_not_le hlimit)] at h
        exact absurd rfl h
    · rw [if_neg hmethod] at h
      exact absurd rfl h
  | health =>
    rw [handle, hroute] at h
    dsimp only at h
    split at h
    · exact absurd rfl h
    · split at h
      · exact absurd rfl h
      · exact absurd rfl h
  | nothing =>
    rw [handle, hroute] at h
    exact absurd rfl h

/-! ## Responses to runs -/

/-- A run that is cut off is responded to with a timeout. -/
theorem respond_of_none (path : String) {run : RetryPolicy.Run Bytes} (h : run.outcome = none) :
    respond op path run = ⟨.timedOut, run.millis, run.events⟩ := by
  rw [respond, h]

/-- A run that ends in time responds with its outcome. -/
theorem respond_of_ok (path : String) {run : RetryPolicy.Run Bytes} {body : Bytes}
    (h : run.outcome = some (.ok body)) :
    respond op path run = ⟨.octets body, run.millis, run.events⟩ := by
  rw [respond, h]

/-- A run that ends in time with a fault is responded to with it, and the fault is logged. -/
theorem respond_of_error (path : String) {run : RetryPolicy.Run Bytes} {e : Envelope.Error}
    (h : run.outcome = some (.error e)) :
    respond op path run =
      ⟨.ofError (.ofEnvelope e), run.millis, run.events ++ [faultEvent op path e]⟩ := by
  unfold respond
  rw [h]

theorem millis_respond (path : String) (run : RetryPolicy.Run Bytes) :
    (respond op path run).millis = run.millis := by
  unfold respond
  split
  · rfl
  · rfl
  · rfl

/-- What is logged is no part of the response. -/
theorem response_respond_logging (path : String) (run : RetryPolicy.Run Bytes)
    (events : List Log.Event) :
    (respond op path (run.logging events)).response = (respond op path run).response := by
  obtain ⟨outcome, millis, earlier⟩ := run
  match outcome with
  | none => rfl
  | some (.ok body) => rfl
  | some (.error e) => rfl

/-- Only a run that succeeds is responded to with the status 200. -/
theorem exists_of_status_respond {path : String} {run : RetryPolicy.Run Bytes}
    (h : (respond op path run).response.status = 200) :
    ∃ body, run.outcome = some (.ok body) := by
  unfold respond at h
  split at h
  · exact absurd h Response.status_timedOut_ne
  · next body houtcome => exact ⟨body, houtcome⟩
  · next e houtcome => exact absurd h (Response.status_ofError_ne _)

/-- With encryption only a request within the limit, with a path and a key, for which the codec
succeeds, has the status 200. -/
theorem exists_of_status_operate (henabled : app.encryptionEnabled)
    (h : (app.operate op r w).1.response.status = 200) :
    r.body.length ≤ app.bodyLimit op ∧ ∃ path key body,
      app.pathAndKey r = .ok (path, key) ∧
      (app.retry.run (some requestTimeout) op.name (app.attempt op key path r.body) w).1.outcome =
        some (.ok body) ∧
      (app.operate op r w).1.response = .octets body := by
  by_cases hlimit : app.bodyLimit op < r.body.length
  · rw [operate_of_tooLarge app op r w hlimit] at h
    exact absurd h Response.status_tooLarge_ne
  · have hle := Nat.le_of_not_lt hlimit
    refine ⟨hle, ?_⟩
    cases hpath : app.pathAndKey r with
    | error e =>
      rw [operate_of_refused app op r w hle henabled hpath] at h
      exact absurd h (Response.status_ofError_ne e)
    | ok pathKey =>
      obtain ⟨path, key⟩ := pathKey
      rw [operate_of_pathAndKey app op r w hle henabled hpath] at h ⊢
      obtain ⟨body, houtcome⟩ := exists_of_status_respond op h
      have hrespond := respond_of_ok op path houtcome
      exact ⟨path, key, body, rfl, houtcome, congrArg Outcome.response hrespond⟩

end App
end PathSeal.Service
