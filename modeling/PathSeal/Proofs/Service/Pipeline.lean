import PathSeal.Proofs.Envelope.Faults
import PathSeal.Proofs.KeyMap.Resolution
import PathSeal.Proofs.Service.Calls

/-!
# PathSeal.Proofs.Service.Pipeline

The stages of a request that is posted to an operation: body limit, bypass, path
header, key and codec. The first one that fails decides the status, and all before the
codec leave the surroundings alone (`handle_stages`).

A request that reaches the codec makes some attempts, and the last of them decides the
status (`Decided`). With a path, and with a body that the attempts have a use for, each
of them makes one call.
-/

namespace PathSeal.Service

open Bytes
open Envelope (Encryptable HasLayout)
open Kms (World)
open RetryPolicy (stateAfter answer tries lastOf elapsed reached isTransient)

/-! ## Responses -/

/-- The status of a response to what the codec has come to. -/
def statusOf : Except Envelope.Error Bytes → Nat
  | .ok _ => 200
  | .error (.kmsUnavailable _) => 503
  | .error (.kmsAccessDenied _) => 403
  | .error (.kmsKeyNotFound _) => 403
  | .error (.integrity _) => 400
  | .error (.malformed _) => 400
  | .error (.invalidIdentity _) => 400
  | .error (.internal _) => 500

namespace Response

/-- The response to what the codec has come to. -/
def ofResult : Except Envelope.Error Bytes → Response
  | .ok body => octets body
  | .error e => ofError (.ofEnvelope e)

theorem status_ofResult (result : Except Envelope.Error Bytes) :
    (ofResult result).status = statusOf result := by
  cases result with
  | ok body => rfl
  | error e =>
    cases e with
    | integrity failure => cases failure <;> rfl
    | _ => rfl

end Response

namespace App

/-- A run with an outcome is responded to with it. -/
theorem response_respond (op : Operation) (path : String) {run : RetryPolicy.Run Bytes}
    {result : Except Envelope.Error Bytes} (h : run.outcome = some result) :
    (respond op path run).response = .ofResult result := by
  unfold respond
  rw [h]
  cases result with
  | ok body => rfl
  | error e => rfl

variable (app : App κ)

/-! ## Before the codec -/

/-- A request draws no random bytes and makes no call, and leaves the key service as it is. -/
def Untouched (r : Request) (w : World κ) : Prop :=
  (app.handle r w).2 = w ∧ app.calls r w = []

theorem untouched_of_codecCall_none {r : Request} (h : app.codecCall r = none) (w : World κ) :
    app.Untouched r w :=
  ⟨handle_of_codecCall_none h w, app.calls_of_codecCall_none h w⟩

/-- The first value of the path header. A header whose name is no header name is never there. -/
def pathValue (r : Request) : Option Bytes :=
  if Text.isHeaderName app.pathHeader then r.header? app.pathHeader else none

/-- The path of a request is the text in its path header. -/
theorem objectPath_of_pathValue {r : Request} {path : String}
    (h : app.pathValue r = some (ofString path)) : app.objectPath r = .ok path := by
  have htext := (toString?_eq_some_iff (ofString path) path).mpr rfl
  rw [objectPath, ← pathValue, h]
  dsimp only
  rw [htext]

/-- If there is no text in it, the request is refused. -/
theorem exists_objectPath_error {r : Request}
    (h : ∀ path, app.pathValue r ≠ some (ofString path)) :
    ∃ detail, app.objectPath r = .error (.badRequest detail) := by
  rw [objectPath, ← pathValue]
  cases hvalue : app.pathValue r with
  | none => exact ⟨_, rfl⟩
  | some bytes =>
    cases htext : toString? bytes with
    | none => exact ⟨s!"{app.pathHeader} header is not valid UTF-8", by simp only [htext]⟩
    | some path =>
      rw [← (toString?_eq_some_iff bytes path).mp htext] at hvalue
      exact absurd hvalue (h path)

/-- Without a path there is no key. -/
theorem pathAndKey_of_objectPath_error {r : Request} {e : Error}
    (h : app.objectPath r = .error e) : app.pathAndKey r = .error e := by
  rw [pathAndKey, h]
  rfl

/-- With a path the table decides. -/
theorem pathAndKey_of_objectPath_ok {r : Request} {path : String}
    (h : app.objectPath r = .ok path) :
    app.pathAndKey r =
      match app.keyMap.resolve path with
      | .ok key => .ok (path, key)
      | .error e => .error (.ofKeyMap e) := by
  rw [pathAndKey, h]
  rfl

section

variable {app} {op : Operation} {r : Request} (hpath : r.path = op.path)

include hpath

/-- A request that is refused for its path or its key has the status of that fault. -/
theorem status_of_refused (hmethod : r.method = "POST") (hlimit : r.body.length ≤ app.bodyLimit op)
    (henabled : app.encryptionEnabled) {e : Error} (h : app.pathAndKey r = .error e)
    (w : World κ) :
    (app.handle r w).1.response.status = e.status ∧ app.Untouched r w := by
  have hnone := app.codecCall_eq_none hpath (.inr (.inr ⟨e, h⟩))
  rw [app.handle_of_path op r hmethod hpath, app.operate_of_refused op r w hlimit henabled h]
  exact ⟨rfl, app.untouched_of_codecCall_none hnone w⟩

end

/-! ## In the codec -/

section

variable {op : Operation} {path : String} {body : Bytes} (key : Key.Handle)

/-- Without a path, or to open bytes without the layout of an envelope, an attempt is refused at
once. -/
theorem attempt_of_refused (h : path = "" ∨ op = .opening ∧ ¬HasLayout body) :
    ∃ e, statusOf (.error e) = 400 ∧ e.isRetryable = false ∧
      ∀ w, app.attempt op key path body w = (.now (.error e), w) := by
  cases op with
  | sealing =>
    have hpath : path = "" := by simpa using h
    refine ⟨.invalidIdentity "object path must not be empty", rfl, rfl, ?_⟩
    intro w
    rw [hpath]
    rfl
  | opening =>
    by_cases hlayout : HasLayout body
    · have hpath : path = "" := by simpa [hlayout] using h
      obtain ⟨e, he⟩ := (Envelope.exists_ofBytes_iff body).mpr hlayout
      refine ⟨.invalidIdentity "object path must not be empty", rfl, rfl, ?_⟩
      intro w
      rw [hpath, attempt, Envelope.Codec.openBytes_of_ok _ key "" w he]
      rfl
    · obtain ⟨fault, hfault⟩ := Envelope.ofBytes_of_not_hasLayout hlayout
      refine ⟨.malformed (Envelope.LayoutError.message fault), rfl, rfl, ?_⟩
      intro w
      exact Envelope.Codec.openBytes_of_error _ key path w hfault

end

/-- How a request that reaches the codec is decided: by the last of its attempts, which comes to
`result`. Those before it fail because the key service is unavailable. -/
structure Decided (op : Operation) (path : String) (key : Key.Handle) (r : Request)
    (w : World κ) (n : Nat) (result : Except Envelope.Error Bytes) : Prop where
  attempts : 1 ≤ n ∧ n ≤ max 1 app.retry.maxAttempts.toNat
  earlier : ∀ i, 1 ≤ i → i < n →
    ∃ detail, (answer (app.attempt op key path r.body) w i).value = .error (.kmsUnavailable detail)
  last : (answer (app.attempt op key path r.body) w n).value = result
  /-- The surroundings are those after the last attempt. -/
  after : (app.handle r w).2 = stateAfter (app.attempt op key path r.body) w n
  outcome : app.codecResult r w = some result
  response : (app.handle r w).1.response = .ofResult result
  /-- Each attempt makes one call, if it gets as far. -/
  calls : (app.calls r w).length = if op.Reaches path r.body then n else 0

variable {app} {op : Operation} {path : String} {key : Key.Handle} {r : Request} {w : World κ}

/-- A request that reaches the codec and is through in time is decided by the codec. -/
theorem exists_decided (hcall : app.codecCall r = some (op, path, key))
    (htime : (app.handle r w).1.millis < requestTimeout) :
    ∃ n result, app.Decided op path key r w n result := by
  let operation := app.attempt op key path r.body
  have hhandle := app.handle_eq_respond hcall w
  rw [hhandle] at htime
  dsimp only at htime
  rw [millis_respond] at htime
  have hreach := RetryPolicy.not_reached_of_millis operation app.retry op.name w htime
  have hrun := RetryPolicy.run_of_not_reached operation w app.retry (some requestTimeout) op.name
    hreach
  have htries := RetryPolicy.tries_of_not_reached operation app.retry (some requestTimeout) op.name
    w hreach
  dsimp only [operation] at hrun htries
  rw [hrun] at hhandle
  refine ⟨lastOf operation w app.retry, _, RetryPolicy.lastOf_mem operation w app.retry, ?_, rfl,
    ?_, ?_, ?_, ?_⟩
  · intro i hpos hlt
    have htransient := RetryPolicy.isTransient_of_lt_lastOf operation w app.retry hpos hlt
    obtain ⟨e, hvalue, he⟩ := (RetryPolicy.isTransient_iff _).mp htransient
    cases e with
    | kmsUnavailable detail => exact ⟨detail, hvalue⟩
    | _ => contradiction
  · rw [hhandle]
  · simp only [codecResult, hcall, hrun, operation]
  · rw [hhandle]
    exact response_respond op path rfl
  · rw [app.length_calls hcall, htries]

/-- A refused path or body is decided without touching anything. -/
theorem Decided.of_refused {n : Nat} {result : Except Envelope.Error Bytes}
    (h : app.Decided op path key r w n result) (hcall : app.codecCall r = some (op, path, key))
    (hrefused : path = "" ∨ op = .opening ∧ ¬HasLayout r.body) :
    (app.handle r w).1.response.status = 400 ∧ app.Untouched r w := by
  obtain ⟨e, hstatus, hfinal, hattempt⟩ := app.attempt_of_refused key hrefused
  have hnow : (app.attempt op key path r.body w).1 = .now (.error e) := by rw [hattempt]
  have hhandle := app.handle_eq_respond hcall w
  have hrun := RetryPolicy.run_of_now _ w app.retry (some requestTimeout) op.name rfl hnow
    (by rw [isTransient]; exact hfinal)
  rw [hrun, hattempt] at hhandle
  have hnot : ¬op.Reaches path r.body := by
    rintro ⟨hpath, hbody⟩
    rcases hrefused with hempty | ⟨rfl, hlayout⟩
    · exact hpath hempty
    · exact hlayout hbody
  have hcalls := h.calls
  rw [if_neg hnot, List.length_eq_zero_iff] at hcalls
  refine ⟨?_, ?_, hcalls⟩
  · rw [hhandle]
    exact (Response.status_ofResult (.error e)).trans hstatus
  · rw [hhandle]

/-- The last attempt decides the status. -/
theorem Decided.statuses {n : Nat} {result : Except Envelope.Error Bytes}
    (h : app.Decided op path key r w n result) :
    let status := (app.handle r w).1.response.status
    (status = 200 ↔ ∃ body, result = .ok body) ∧
    (status = 503 ↔ ∃ detail, result = .error (.kmsUnavailable detail)) ∧
    (status = 403 ↔ (∃ detail, result = .error (.kmsAccessDenied detail)) ∨
      ∃ detail, result = .error (.kmsKeyNotFound detail)) ∧
    (status = 400 ↔ (∃ reason, result = .error (.malformed reason)) ∨
      (∃ reason, result = .error (.invalidIdentity reason)) ∨
      ∃ failure, result = .error (.integrity failure)) := by
  intro status
  have hstatus : status = statusOf result := by
    dsimp only [status]
    rw [h.response, Response.status_ofResult]
  rw [hstatus]
  cases result with
  | ok body => simp [statusOf]
  | error e => cases e <;> simp [statusOf]

end App

/-- **The first stage that fails decides, and only the codec touches anything.** Let a request be
posted to an operation and be through before the time of a request is over. A body beyond the limit
has the status 413. Without encryption any other body is given back. With encryption a request
without a text in its path header has the status 400; if there is no global key, so has one whose
path has no bucket, and one whose path no entry covers has the status 403. All these make no call
and draw nothing.

Any other request reaches the codec, and its last attempt decides the status: the first one that
does not fail because the key service is unavailable, or else the last that there can be. An empty
path, or bytes to open without the layout of an envelope, still touch nothing. Otherwise each
attempt makes one call, except that a payload beyond the limits of the cipher is not brought to the
key service. -/
theorem handle_stages (app : App κ) (op : Operation) (r : Request) (w : World κ)
    (hmethod : r.method = "POST") (hpath : r.path = op.path)
    (htime : (app.handle r w).1.millis < requestTimeout) :
    let response := (app.handle r w).1.response
    (app.bodyLimit op < r.body.length → response.status = 413 ∧ app.Untouched r w) ∧
    (r.body.length ≤ app.bodyLimit op →
      (app.encryptionEnabled = false →
        response.status = 200 ∧ response.body = r.body ∧ app.Untouched r w) ∧
      (app.encryptionEnabled →
        ((∀ path, app.pathValue r ≠ some (ofString path)) →
          response.status = 400 ∧ app.Untouched r w) ∧
        ∀ path, app.pathValue r = some (ofString path) →
          (app.keyMap.globalKey = none → KeyMap.Location.Bucketless path →
            response.status = 400 ∧ app.Untouched r w) ∧
          (app.keyMap.globalKey = none → ∀ l, KeyMap.Location.parse path = .ok l →
            (∀ entry ∈ app.keyMap.entries, ¬entry.1.Covers l) →
            response.status = 403 ∧ app.Untouched r w) ∧
          ((app.keyMap.globalKey = none → ∃ l, KeyMap.Location.parse path = .ok l ∧
              ∃ entry ∈ app.keyMap.entries, entry.1.Covers l) →
            ∃ key n result, app.keyMap.resolve path = .ok key ∧
              app.Decided op path key r w n result ∧
              (response.status = 200 ↔ ∃ body, result = .ok body) ∧
              (response.status = 503 ↔ ∃ detail, result = .error (.kmsUnavailable detail)) ∧
              (response.status = 403 ↔ (∃ detail, result = .error (.kmsAccessDenied detail)) ∨
                ∃ detail, result = .error (.kmsKeyNotFound detail)) ∧
              (response.status = 400 ↔ (∃ reason, result = .error (.malformed reason)) ∨
                (∃ reason, result = .error (.invalidIdentity reason)) ∨
                ∃ failure, result = .error (.integrity failure)) ∧
              (path = "" ∨ op = .opening ∧ ¬HasLayout r.body →
                response.status = 400 ∧ app.Untouched r w) ∧
              (op.Reaches path r.body →
                1 ≤ (app.calls r w).length ∧
                  (app.calls r w).length ≤ max 1 app.retry.maxAttempts.toNat)))) := by
  intro response
  have hhandle := app.handle_of_path op r hmethod hpath
  refine ⟨?_, ?_⟩
  · intro hlarge
    have hnone := app.codecCall_eq_none hpath (.inl hlarge)
    refine ⟨?_, app.untouched_of_codecCall_none hnone w⟩
    dsimp only [response]
    rw [hhandle, app.operate_of_tooLarge op r w hlarge]
    rfl
  intro hlimit
  refine ⟨?_, ?_⟩
  · intro hdisabled
    have hnone := app.codecCall_eq_none hpath (.inr (.inl hdisabled))
    dsimp only [response]
    rw [hhandle, app.operate_of_disabled op r w hlimit hdisabled]
    exact ⟨rfl, rfl, app.untouched_of_codecCall_none hnone w⟩
  intro henabled
  refine ⟨?_, ?_⟩
  · intro hvalue
    obtain ⟨detail, hdetail⟩ := app.exists_objectPath_error hvalue
    exact App.status_of_refused hpath hmethod hlimit henabled
      (app.pathAndKey_of_objectPath_error hdetail) w
  intro path hvalue
  have hresolve := app.pathAndKey_of_objectPath_ok (app.objectPath_of_pathValue hvalue)
  refine ⟨?_, ?_, ?_⟩
  · intro hglobal hbucket
    rw [(KeyMap.resolve_eq_invalid_iff hglobal).mpr hbucket] at hresolve
    exact App.status_of_refused hpath hmethod hlimit henabled hresolve w
  · intro hglobal l hparse hcovers
    rw [(KeyMap.resolve_eq_unmapped_iff hglobal hparse).mpr hcovers] at hresolve
    exact App.status_of_refused hpath hmethod hlimit henabled hresolve w
  · intro hmapped
    obtain ⟨key, hkey⟩ := KeyMap.exists_resolve hmapped
    rw [hkey] at hresolve
    have hcall := (app.codecCall_eq_some_iff r op path key).mpr
      ⟨hmethod, hpath, hlimit, henabled, hresolve⟩
    obtain ⟨n, result, hdecided⟩ := App.exists_decided hcall htime
    obtain ⟨hok, hunavailable, hforbidden, hrefused⟩ := hdecided.statuses
    refine ⟨key, n, result, hkey, hdecided, hok, hunavailable, hforbidden, hrefused,
      hdecided.of_refused hcall, ?_⟩
    intro hreaches
    rw [hdecided.calls, if_pos hreaches]
    exact hdecided.attempts

/-- An object that is sealed at the second attempt: two calls are made. -/
theorem handle_stages_second_attempt :
    let app : App Kms.Script :=
      ⟨⟨Kms.Script.wrapper, .standard⟩, .always ⟨.gcp, "k"⟩, "x-object-path", .standard, 1024, true⟩
    let path := "gs://bucket/run"
    let r : Request := ⟨"POST", "/seal", [("X-Object-Path", ofString path)], ofString "weights"⟩
    let w : World Kms.Script :=
      ⟨.cyclic #[], [⟨5, .fail (.unavailable "busy")⟩, ⟨0, .echo⟩]⟩
    r.method = "POST" ∧ r.path = Operation.sealing.path ∧
      (app.handle r w).1.millis < requestTimeout ∧
      (app.calls r w).length = 2 ∧
      ∃ key n result, app.keyMap.resolve path = .ok key ∧
        app.Decided .sealing path key r w n result ∧
        ((app.handle r w).1.response.status = 200 ↔ ∃ body, result = .ok body) ∧
        1 ≤ (app.calls r w).length ∧
        (app.calls r w).length ≤ max 1 app.retry.maxAttempts.toNat := by
  intro app path r w
  have hpath : r.path = Operation.sealing.path := by decide +kernel
  have htime : (app.handle r w).1.millis < requestTimeout := by decide +kernel
  have hcalls : (app.calls r w).length = 2 := by decide +kernel
  have hvalue : app.pathValue r = some (ofString path) := by decide +kernel
  have hreaches : Operation.sealing.Reaches path r.body := by decide +kernel
  have hstages := handle_stages app .sealing r w rfl hpath htime
  obtain ⟨key, n, result, hkey, hdecided, hok, -, -, -, -, hbounds⟩ :=
    ((hstages.2 (by decide +kernel)).2 rfl).2 path hvalue |>.2.2 nofun
  exact ⟨rfl, hpath, htime, hcalls, key, n, result, hkey, hdecided, hok, hbounds hreaches⟩

end PathSeal.Service
