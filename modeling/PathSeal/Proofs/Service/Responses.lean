import PathSeal.Kms.Local
import PathSeal.Proofs.Bytes
import PathSeal.Proofs.Service.Bodies
import PathSeal.Proofs.Service.Pipeline

/-!
# PathSeal.Proofs.Service.Responses

Which responses there are (`inTime_or_timedOut`), and which of them tell a client what
went wrong. The service writes its faults as JSON, and what it writes is read back
(`ErrorBody.parse_toJson`). Three statuses are given by the layers around it instead:
for a method that a path does not have, for a body that is too long, and for a request
that runs out of its time. With these a client is told nothing that it can read
(`handle_tells_iff`).
-/

namespace PathSeal.Service

open Bytes
open Kms (World)

/-! ## Responses -/

namespace Response

/-- The responses that are given in time. -/
inductive InTime : Response → Prop where
  | succeeded (response : Response) (h : response.status = 200) : InTime response
  | failed (e : Error) : InTime (ofError e)
  | notFound : InTime notFound
  | methodNotAllowed (allow : String) : InTime (methodNotAllowed allow)
  | tooLarge : InTime tooLarge

/-- They do not say that the time has run out. -/
theorem InTime.status_ne_timedOut {response : Response} (h : response.InTime) :
    response.status ≠ timedOut.status := by
  cases h with
  | succeeded _ h =>
    rw [h]
    decide
  | failed e => cases e <;> nofun
  | _ => nofun

theorem inTime_ofResult (result : Except Envelope.Error Bytes) : (ofResult result).InTime := by
  cases result with
  | ok body => exact .succeeded _ rfl
  | error e => exact .failed _

/-- A response tells a client of a fault if its body holds it. -/
def Tells (response : Response) (b : ErrorBody) : Prop :=
  ∃ text, toString? response.body = some text ∧ ErrorBody.parse text = .ok b

theorem tells_json (status : Nat) (b : ErrorBody) : (json status b.toJson).Tells b :=
  ⟨b.toJson.compact, (toString?_eq_some_iff _ _).mpr rfl, b.parse_toJson⟩

/-- A body of a text that is not read as one tells nothing. -/
theorem not_tells_of_body {response : Response} {text : String} {fault : Json.Fault}
    (hbody : response.body = ofString text) (hparse : ErrorBody.parse text = .error fault)
    (b : ErrorBody) : ¬response.Tells b := by
  rintro ⟨found, hfound, hparsed⟩
  have htext : toString? response.body = some text :=
    (toString?_eq_some_iff _ _).mpr hbody.symm
  rw [htext] at hfound
  rw [← Option.some.inj hfound, hparse] at hparsed
  contradiction

theorem not_tells_of_empty {response : Response} (h : response.body = []) (b : ErrorBody) :
    ¬response.Tells b :=
  not_tells_of_body (h.trans (by decide : [] = ofString "")) rfl b

/-- Only one fault is told. -/
theorem Tells.eq {response : Response} {b b' : ErrorBody} (h : response.Tells b)
    (h' : response.Tells b') : b = b' := by
  obtain ⟨text, htext, hparse⟩ := h
  obtain ⟨text', htext', hparse'⟩ := h'
  rw [htext] at htext'
  rw [← Option.some.inj htext', hparse] at hparse'
  exact Except.ok.inj hparse'

/-- What a response comes to for a client: it tells one of the faults there are, with the status of
that fault, or nothing. -/
def Reads (response : Response) : Prop :=
  ((∃ b, response.Tells b) ↔ response.status ∉ [405, 408, 413]) ∧
    ∀ b, response.Tells b →
      response.contentType = some "application/json" ∧
        ((response.status = 404 ∧ b.code = "not_found") ∨
          ∃ e : Error, response.status = e.status ∧ b = .ofError e)

/-- A response that tells nothing has to have one of three statuses. -/
theorem reads_of_not_tells {response : Response} (hnone : ∀ b, ¬response.Tells b)
    (hstatus : response.status ∈ [405, 408, 413]) : response.Reads := by
  refine ⟨iff_of_false (not_exists.mpr hnone) (not_not_intro hstatus), ?_⟩
  intro b hb
  exact absurd hb (hnone b)

/-- One that is given in time without success does so. -/
theorem InTime.reads {response : Response} (h : response.InTime) (hfailed : response.status ≠ 200) :
    response.Reads := by
  cases h with
  | succeeded _ h => contradiction
  | failed e =>
    have htells : (ofError e).Tells (.ofError e) := tells_json e.status (.ofError e)
    have hstatus : e.status ∉ [405, 408, 413] := by cases e <;> simp [Error.status]
    refine ⟨iff_of_true ⟨_, htells⟩ hstatus, ?_⟩
    intro b hb
    exact ⟨rfl, .inr ⟨e, rfl, hb.eq htells⟩⟩
  | notFound =>
    have htells := tells_json 404 ⟨"not_found", "the requested resource does not exist"⟩
    refine ⟨iff_of_true ⟨_, htells⟩ (by decide), ?_⟩
    intro b hb
    rw [hb.eq htells]
    exact ⟨rfl, .inl ⟨rfl, rfl⟩⟩
  | methodNotAllowed allow =>
    exact reads_of_not_tells (not_tells_of_empty rfl) (by decide : 405 ∈ [405, 408, 413])
  | tooLarge => exact reads_of_not_tells (not_tells_of_body rfl rfl) (by decide)

end Response

namespace App

variable (app : App κ) {r : Request}

/-- A request that is posted to an operation but does not reach the codec is responded to in
time. -/
theorem inTime_operate (op : Operation) (h : app.codecCall r = none) (hmethod : r.method = "POST")
    (hpath : r.path = op.path) (w : World κ) : (app.operate op r w).1.response.InTime := by
  by_cases hlimit : app.bodyLimit op < r.body.length
  · rw [app.operate_of_tooLarge op r w hlimit]
    exact .tooLarge
  · have hle := Nat.le_of_not_lt hlimit
    cases henabled : app.encryptionEnabled with
    | false =>
      rw [app.operate_of_disabled op r w hle henabled]
      exact .succeeded _ rfl
    | true =>
      cases hkey : app.pathAndKey r with
      | error e =>
        rw [app.operate_of_refused op r w hle henabled hkey]
        exact .failed e
      | ok pathKey =>
        have hcall := (codecCall_eq_some_iff r op pathKey.1 pathKey.2).mpr
          ⟨hmethod, hpath, hle, henabled, hkey⟩
        rw [h] at hcall
        contradiction

/-- So is any other request that does not reach it. -/
theorem inTime_of_codecCall_none (h : app.codecCall r = none) (w : World κ) :
    (app.handle r w).1.response.InTime := by
  cases hroute : Route.ofPath r.path with
  | nothing =>
    rw [handle, hroute]
    exact .notFound
  | health =>
    rw [handle, hroute]
    dsimp only
    split
    · exact .succeeded _ rfl
    · split
      · exact .succeeded _ rfl
      · exact .methodNotAllowed "GET,HEAD"
  | operation op =>
    rw [app.handle_of_route op r hroute]
    split
    · next hmethod => exact app.inTime_operate op h hmethod (Route.eq_path_of_ofPath hroute) w
    · exact .methodNotAllowed "POST"

/-- A request that reaches the codec is responded to in time unless its attempts are cut off. -/
theorem inTime_or_timedOut_of_codecCall {op : Operation} {path : String} {key : Key.Handle}
    (h : app.codecCall r = some (op, path, key)) (w : World κ) :
    let run := app.retry.run (some requestTimeout) op.name (app.attempt op key path r.body) w
    (run.1.outcome ≠ none ∧ (app.handle r w).1.response.InTime) ∨
      (run.1.outcome = none ∧ (app.handle r w).1.response = .timedOut) := by
  intro run
  rw [app.response_eq_respond h]
  cases hrun : run.1.outcome with
  | none =>
    refine .inr ⟨rfl, ?_⟩
    rw [respond_of_none op path hrun]
  | some result =>
    rw [response_respond op path hrun]
    exact .inl ⟨Option.some_ne_none result, Response.inTime_ofResult result⟩

/-- So every request is, unless it runs out of its time. -/
theorem inTime_or_timedOut (r : Request) (w : World κ) :
    (app.handle r w).1.response.InTime ∨ (app.handle r w).1.response = .timedOut := by
  cases hcall : app.codecCall r with
  | none => exact .inl (app.inTime_of_codecCall_none hcall w)
  | some call =>
    rcases app.inTime_or_timedOut_of_codecCall hcall w with ⟨-, h⟩ | ⟨-, h⟩
    · exact .inl h
    · exact .inr h

/-- A request runs out of its time exactly if it reaches the codec and its attempts are cut off. -/
theorem status_eq_timedOut_iff (r : Request) (w : World κ) :
    (app.handle r w).1.response.status = Response.timedOut.status ↔
      ∃ op path key, app.codecCall r = some (op, path, key) ∧
        (app.retry.run (some requestTimeout) op.name (app.attempt op key path r.body) w).1.outcome =
          none := by
  cases hcall : app.codecCall r with
  | none => exact iff_of_false (app.inTime_of_codecCall_none hcall w).status_ne_timedOut nofun
  | some call =>
    obtain ⟨op, path, key⟩ := call
    rcases app.inTime_or_timedOut_of_codecCall hcall w with ⟨hsome, h⟩ | ⟨hnone, h⟩
    · refine iff_of_false h.status_ne_timedOut ?_
      rintro ⟨_, _, _, hsame, hnone⟩
      cases hsame
      exact hsome hnone
    · exact iff_of_true (congrArg Response.status h) ⟨op, path, key, rfl, hnone⟩

end App

/-- **A failed request is told what went wrong, but for three statuses.** A response whose status is
not one of success is JSON that is read back as a fault with its code and its message, if it comes
from the service itself. These are those of the service, with their statuses, and the one for a path
that does not exist. A response for a method that the path does not have, for a body that is too
long, or for a request that ran out of its time, tells nothing of the kind: its body is empty or
another text. -/
theorem handle_tells_iff (app : App κ) (r : Request) (w : World κ) :
    let response := (app.handle r w).1.response
    ¬(200 ≤ response.status ∧ response.status < 300) →
      ((∃ b, response.Tells b) ↔ response.status ∉ [405, 408, 413]) ∧
      ∀ b, response.Tells b →
        response.contentType = some "application/json" ∧
          ((response.status = 404 ∧ b.code = "not_found") ∨
            ∃ e : Error, response.status = e.status ∧ b = .ofError e) := by
  intro response hfailed
  show response.Reads
  rcases app.inTime_or_timedOut r w with hintime | htimedOut
  · refine hintime.reads ?_
    intro hstatus
    rw [hstatus] at hfailed
    exact hfailed (by decide)
  · have hbody : response.body = [] := congrArg Response.body htimedOut
    have hstatus : response.status = 408 := congrArg Response.status htimedOut
    exact Response.reads_of_not_tells (Response.not_tells_of_empty hbody) (by simp [hstatus])

/-- A request without a path is told that it is a bad one. -/
theorem handle_tells_bad_request :
    let app : App Unit :=
      ⟨⟨Kms.Local.empty.wrapper, .standard⟩, .always ⟨.inProcess, "test"⟩, "x-object-path",
        .standard, 16, true⟩
    let r : Request := ⟨"POST", "/seal", [], ofString "weights"⟩
    let w : World Unit := ⟨.cyclic #[], ()⟩
    let response := (app.handle r w).1.response
    ¬(200 ≤ response.status ∧ response.status < 300) ∧
      ∃ b, response.Tells b ∧ b.code = "bad_request" := by
  intro app r w response
  have hstatus : response.status = 400 := by decide +kernel
  have hfailed : ¬(200 ≤ response.status ∧ response.status < 300) := by
    rw [hstatus]
    decide
  obtain ⟨htells, hkinds⟩ := handle_tells_iff app r w hfailed
  obtain ⟨b, hb⟩ := htells.mpr (by rw [hstatus]; decide)
  obtain ⟨-, ⟨hmissing, -⟩ | ⟨e, he, hcode⟩⟩ := hkinds b hb
  · rw [hstatus] at hmissing
    contradiction
  · refine ⟨hfailed, b, hb, ?_⟩
    rw [hcode]
    rw [hstatus] at he
    cases e with
    | badRequest detail => rfl
    | _ => exact absurd he (by simp [Error.status])

/-- To get from a path that is to be posted to, or to post too much, is refused without a word that
a client can read. -/
theorem handle_tells_nothing :
    let app : App Unit :=
      ⟨⟨Kms.Local.empty.wrapper, .standard⟩, .always ⟨.inProcess, "test"⟩, "x-object-path",
        .standard, 16, true⟩
    let w : World Unit := ⟨.cyclic #[], ()⟩
    let got := (app.handle ⟨"GET", "/seal", [], []⟩ w).1.response
    let posted := (app.handle ⟨"POST", "/seal", [], List.replicate 17 0⟩ w).1.response
    got.status = 405 ∧ (∀ b, ¬got.Tells b) ∧ posted.status = 413 ∧ ∀ b, ¬posted.Tells b := by
  intro app w got posted
  have hgot : got = .methodNotAllowed "POST" := by decide +kernel
  have hposted : posted = .tooLarge := by decide +kernel
  rw [hgot, hposted]
  exact ⟨rfl, Response.not_tells_of_empty rfl, rfl, Response.not_tells_of_body rfl rfl⟩

end PathSeal.Service
