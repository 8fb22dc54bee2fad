import PathSeal.Proofs.Envelope.Blind
import PathSeal.Proofs.Service.Calls

/-!
# PathSeal.Proofs.Service.Secrecy

What sealing lets others see. Over a key service that is blind, two requests to seal
with the same headers and with bodies of the same length cannot be told apart by their
events, their calls, their times or their statuses, whatever their bodies and the random
bytes are (`seal_looks_alike`). Of an object that is sealed the log tells the path, the
key and two lengths (`events_of_sealed`).

What is seen of one attempt, its part in the log included, is the same for both, and so
is the state that it leaves the service in. So the attempts go on in step, and their runs
are the same but for the sealed bytes.
-/

namespace PathSeal.Service

open Envelope (Codec Made)
open Kms (World)
open RetryPolicy (stateAfter answer tries through)

/-- Two outcomes that cannot be told apart but for the bytes of a body that is given out. -/
structure Outcome.LooksLike (o o' : Outcome) : Prop where
  events : o.events = o'.events
  millis : o.millis = o'.millis
  status : o.response.status = o'.response.status
  response : o.response.status ≠ 200 → o.response = o'.response
  length : o.response.status = 200 → o.response.body.length = o'.response.body.length

namespace Outcome.LooksLike

theorem refl (o : Outcome) : o.LooksLike o :=
  ⟨rfl, rfl, rfl, fun _ => rfl, fun _ => rfl⟩

theorem octets {body body' : Bytes} (h : body.length = body'.length) (millis : Nat)
    (events : List Log.Event) :
    LooksLike ⟨.octets body, millis, events⟩ ⟨.octets body', millis, events⟩ :=
  ⟨rfl, rfl, rfl, fun hstatus => absurd rfl hstatus, fun _ => h⟩

end Outcome.LooksLike

namespace App

/-- Runs that are seen alike are responded to alike. -/
theorem respond_looksLike (op : Operation) (path : String) {run run' : RetryPolicy.Run Made}
    (h : run.map Made.seen = run'.map Made.seen) :
    (respond op path (settle run)).LooksLike (respond op path (settle run')) := by
  obtain ⟨outcome, millis, events⟩ := run
  obtain ⟨outcome', millis', events'⟩ := run'
  simp only [RetryPolicy.Run.map, RetryPolicy.Run.mk.injEq] at h
  obtain ⟨houtcome, rfl, rfl⟩ := h
  cases outcome with
  | none =>
    cases outcome' with
    | none => exact .refl _
    | some result => contradiction
  | some result =>
    cases outcome' with
    | none => contradiction
    | some result' =>
      have hresult := Option.some.inj houtcome
      cases result with
      | error e =>
        cases result' with
        | error e' =>
          obtain rfl := Except.error.inj hresult
          exact .refl _
        | ok made' => contradiction
      | ok made =>
        cases result' with
        | error e' => contradiction
        | ok made' =>
          obtain ⟨body, event⟩ := made
          obtain ⟨body', event'⟩ := made'
          obtain ⟨hlength, rfl⟩ := Prod.mk.inj (Except.ok.inj hresult)
          exact .octets hlength millis (events ++ [event])

variable (app : App κ)

section

variable (hblind : app.codec.wrapper.Blind) (key : Key.Handle) (path : String)
  {body body' : Bytes} (hlength : body.length = body'.length)

include hblind hlength

/-- Attempts to seal that start in the same state of the key service are seen alike and leave it in
the same state. -/
theorem attempt_seen {w w' : World κ} (hkms : w.kms = w'.kms) :
    (through Made.seen (app.attemptLogged .sealing key path body') w').1 =
        (through Made.seen (app.attemptLogged .sealing key path body) w).1 ∧
      (through Made.seen (app.attemptLogged .sealing key path body) w).2.kms =
        (through Made.seen (app.attemptLogged .sealing key path body') w').2.kms := by
  have hseen := app.codec.sealingSeen_congr key path hblind hlength hkms
  exact ⟨(congrArg Prod.fst hseen).symm, congrArg Prod.snd hseen⟩

/-- So are their runs, in as many tries. -/
theorem run_seen {w w' : World κ} (hkms : w.kms = w'.kms) (op : String) :
    let operation := app.attemptLogged .sealing key path body
    let operation' := app.attemptLogged .sealing key path body'
    let run := app.retry.run (some requestTimeout) op operation w
    let run' := app.retry.run (some requestTimeout) op operation' w'
    run.1.map Made.seen = run'.1.map Made.seen ∧
      tries operation app.retry (some requestTimeout) op w =
        tries operation' app.retry (some requestTimeout) op w' ∧
      run.2.kms = run'.2.kms := by
  intro operation operation' run run'
  have hstep (s s' : World κ) (hs : s.kms = s'.kms) := attempt_seen app hblind key path hlength hs
  let SameKms (s s' : World κ) : Prop := s.kms = s'.kms
  have hsame := RetryPolicy.answer_of_match SameKms hkms hstep
  have hstate := RetryPolicy.match_stateAfter SameKms hkms hstep
  obtain ⟨hrun, htries⟩ := RetryPolicy.run_map_congr Made.seen app.retry (some requestTimeout) op
    hsame
  refine ⟨hrun.symm, htries.symm, ?_⟩
  have h := hstate (tries operation app.retry (some requestTimeout) op w)
  rw [RetryPolicy.stateAfter_through, RetryPolicy.stateAfter_through] at h
  dsimp only [run, run']
  rw [RetryPolicy.state_run, RetryPolicy.state_run, htries]
  exact h

end

section

variable (hblind : app.codec.wrapper.Blind) {r r' : Request} {w w' : World κ}
  (hlength : r.body.length = r'.body.length) (hkms : w.kms = w'.kms)

include hblind hlength hkms

/-- Requests that reach the codec with the same path and key to seal for are seen alike. -/
theorem looksLike_of_codecCall {path : String} {key : Key.Handle}
    (hcall : app.codecCall r = some (.sealing, path, key))
    (hcall' : app.codecCall r' = some (.sealing, path, key)) :
    (app.handle r w).1.LooksLike (app.handle r' w').1 ∧
      (app.calls r w).length = (app.calls r' w').length ∧
      (app.handle r w).2.kms = (app.handle r' w').2.kms := by
  obtain ⟨hrun, htries, hafter⟩ := app.run_seen hblind key path hlength hkms
    Operation.sealing.name
  rw [← RetryPolicy.tries_through Made.bytes, ← RetryPolicy.tries_through Made.bytes,
    app.through_attemptLogged, app.through_attemptLogged] at htries
  have hreaches : Operation.sealing.Reaches path r.body ↔
      Operation.sealing.Reaches path r'.body := by
    simp only [Operation.Reaches, Envelope.Encryptable, hlength]
  refine ⟨?_, ?_, ?_⟩
  · rw [app.handle_eq_settle hcall, app.handle_eq_settle hcall']
    exact respond_looksLike .sealing path hrun
  · rw [app.length_calls hcall, app.length_calls hcall', htries]
    simp only [hreaches]
  · rw [app.handle_eq_settle hcall, app.handle_eq_settle hcall']
    exact hafter

/-- So are all that are posted to seal with the same headers. -/
theorem looksLike_of_posted (hmethod : r.method = "POST") (hmethod' : r'.method = "POST")
    (hroute : r.path = Operation.sealing.path) (hroute' : r'.path = Operation.sealing.path)
    (hheaders : r.headers = r'.headers) :
    (app.handle r w).1.LooksLike (app.handle r' w').1 ∧
      (app.calls r w).length = (app.calls r' w').length ∧
      (app.handle r w).2.kms = (app.handle r' w').2.kms := by
  have hkey : app.pathAndKey r' = app.pathAndKey r :=
    app.pathAndKey_congr (by rw [Request.header?, Request.header?, hheaders])
  have hquiet (h : app.codecCall r = none) (h' : app.codecCall r' = none) :
      (app.calls r w).length = (app.calls r' w').length := by
    rw [app.calls_of_codecCall_none h, app.calls_of_codecCall_none h']
  have hhandle := app.handle_of_path .sealing r hmethod hroute
  have hhandle' := app.handle_of_path .sealing r' hmethod' hroute'
  by_cases hlimit : app.bodyLimit .sealing < r.body.length
  · have hlimit' : app.bodyLimit .sealing < r'.body.length := hlength ▸ hlimit
    have hcalls := hquiet (app.codecCall_eq_none hroute (.inl hlimit))
      (app.codecCall_eq_none hroute' (.inl hlimit'))
    rw [hhandle, hhandle', app.operate_of_tooLarge .sealing r w hlimit,
      app.operate_of_tooLarge .sealing r' w' hlimit']
    exact ⟨.refl _, hcalls, hkms⟩
  have hle := Nat.le_of_not_lt hlimit
  have hle' : r'.body.length ≤ app.bodyLimit .sealing := hlength ▸ hle
  cases henabled : app.encryptionEnabled with
  | false =>
    have hcalls := hquiet (app.codecCall_eq_none hroute (.inr (.inl henabled)))
      (app.codecCall_eq_none hroute' (.inr (.inl henabled)))
    rw [hhandle, hhandle', app.operate_of_disabled .sealing r w hle henabled,
      app.operate_of_disabled .sealing r' w' hle' henabled]
    exact ⟨.octets hlength _ _, hcalls, hkms⟩
  | true =>
    cases hresolve : app.pathAndKey r with
    | error e =>
      have hresolve' := hkey.trans hresolve
      have hcalls := hquiet (app.codecCall_eq_none hroute (.inr (.inr ⟨e, hresolve⟩)))
        (app.codecCall_eq_none hroute' (.inr (.inr ⟨e, hresolve'⟩)))
      rw [hhandle, hhandle', app.operate_of_refused .sealing r w hle henabled hresolve,
        app.operate_of_refused .sealing r' w' hle' henabled hresolve']
      exact ⟨.refl _, hcalls, hkms⟩
    | ok pathKey =>
      obtain ⟨path, key⟩ := pathKey
      have hcall := (app.codecCall_eq_some_iff r .sealing path key).mpr
        ⟨hmethod, hroute, hle, henabled, hresolve⟩
      have hcall' := (app.codecCall_eq_some_iff r' .sealing path key).mpr
        ⟨hmethod', hroute', hle', henabled, hkey.trans hresolve⟩
      exact app.looksLike_of_codecCall hblind hlength hkms hcall hcall'

end

/-- The log of an object that is sealed tells the path, the key and two lengths, after the attempts
that failed. -/
theorem events_of_sealed {r : Request} {w : World κ} (hmethod : r.method = "POST")
    (hpath : r.path = "/seal") (henabled : app.encryptionEnabled)
    (hstatus : (app.handle r w).1.response.status = 200) :
    ∃ path key wrappedLength earlier, app.pathAndKey r = .ok (path, key) ∧
      (app.handle r w).1.response.body.length = wrappedLength + 32 + r.body.length ∧
      (app.handle r w).1.events =
        earlier ++ [Envelope.sealedEvent key path r.body.length wrappedLength] ∧
      ∀ event ∈ earlier, ∃ attempt e, event = app.retry.retryEvent "seal" attempt e := by
  have hroute : r.path = Operation.sealing.path := hpath
  rw [app.handle_of_path .sealing r hmethod hroute] at hstatus
  obtain ⟨hlimit, path, key, stored, hkey, houtcome, -⟩ :=
    app.exists_of_status_operate .sealing r w henabled hstatus
  have hcall := (app.codecCall_eq_some_iff r .sealing path key).mpr
    ⟨hmethod, hroute, hlimit, henabled, hkey⟩
  obtain ⟨w', event, hmade, hhandle⟩ := app.outcome_of_ok hcall w houtcome
  obtain ⟨wrappedLength, hseen⟩ := app.codec.exists_seen_of_sealLogged key path hmade
  obtain ⟨hlength, rfl⟩ := Prod.mk.inj hseen
  have hregular := RetryPolicy.run_regular (app.attempt .sealing key path r.body) app.retry
    (some requestTimeout) Operation.sealing.name w
  rw [hhandle]
  exact ⟨path, key, wrappedLength, _, hkey, hlength, rfl, hregular.events⟩

end App

/-- **Sealing lets only lengths be seen.** Master keys in the process, a script of replies, and the
services of a deployment with master keys in the process only are blind. Over a service that is
blind, let two requests be posted to seal with the same headers, with bodies of the same length and
from the same state of the key service; the bodies and the random bytes may be any. Then both have
the same events, take the same time, make equally many calls, and have the same status. If it is
not 200, the responses are the same; and if it is, their bodies have the same length. The key
service is left in the same state.

The events are those of the whole work, with the spans they belong to. For an object that is sealed
they are the warnings about attempts that failed and then the event of the codec, which names the
path and the key, how long the plaintext is and how long the wrapped key. -/
theorem seal_looks_alike :
    (∀ kms : Kms.Local, (kms.wrapper : Kms.Wrapper κ).Blind) ∧
    Kms.Script.wrapper.Blind ∧
    (∀ b : Kms.Backends σ τ, b.google = none → b.amazon = none → b.wrapper.Blind) ∧
    ∀ app : App κ, app.codec.wrapper.Blind → ∀ (r r' : Request) (w w' : World κ),
      r.method = "POST" → r'.method = "POST" → r.path = "/seal" → r'.path = "/seal" →
      r.headers = r'.headers → r.body.length = r'.body.length → w.kms = w'.kms →
      (app.handle r w).1.LooksLike (app.handle r' w').1 ∧
        (app.calls r w).length = (app.calls r' w').length ∧
        (app.handle r w).2.kms = (app.handle r' w').2.kms ∧
        (app.encryptionEnabled → (app.handle r w).1.response.status = 200 →
          ∃ path key wrappedLength earlier, app.pathAndKey r = .ok (path, key) ∧
            (app.handle r w).1.response.body.length = wrappedLength + 32 + r.body.length ∧
            (app.handle r w).1.events = earlier ++
              [{ level := .debug
                 target := "envelope::codec"
                 message := "sealed"
                 fields := [("wrapped_len", .count wrappedLength)]
                 within := [
                  { name := "envelope.seal"
                    level := .info
                    target := "envelope::codec"
                    fields := [("object_path", .text path), ("key", .text key.uri),
                      ("plaintext_len", .count r.body.length)] }] }] ∧
            ∀ event ∈ earlier, event.level = .warn ∧
              event.message = "KMS unavailable, retrying") := by
  refine ⟨Kms.Local.blind, Kms.Script.blind, Kms.Backends.blind, ?_⟩
  intro app hblind r r' w w' hmethod hmethod' hpath hpath' hheaders hlength hkms
  obtain ⟨halike, hcalls, hafter⟩ :=
    app.looksLike_of_posted hblind hlength hkms hmethod hmethod' hpath hpath' hheaders
  refine ⟨halike, hcalls, hafter, fun henabled hstatus => ?_⟩
  obtain ⟨path, key, wrappedLength, earlier, hkey, hsealed, hevents, hretry⟩ :=
    app.events_of_sealed hmethod hpath henabled hstatus
  refine ⟨path, key, wrappedLength, earlier, hkey, hsealed, hevents, fun event hmem => ?_⟩
  obtain ⟨attempt, e, rfl⟩ := hretry event hmem
  exact ⟨rfl, rfl⟩

/-- Two objects that are sealed at the second attempt, with other bytes from other random bytes. -/
theorem seal_looks_alike_second_attempt :
    let app : App Kms.Script :=
      ⟨⟨Kms.Script.wrapper, .standard⟩, .always ⟨.gcp, "k"⟩, "x-object-path", .standard, 1024, true⟩
    let request (body : String) : Request :=
      ⟨"POST", "/seal", [("X-Object-Path", Bytes.ofString "gs://bucket/run")],
        Bytes.ofString body⟩
    let w (seed : Array UInt8) : World Kms.Script :=
      ⟨.cyclic seed, [⟨5, .fail (.unavailable "busy")⟩, ⟨0, .echo⟩]⟩
    let r := request "weights"
    let r' := request "secrets"
    r.body ≠ r'.body ∧ (app.handle r (w #[])).1.response.status = 200 ∧
      (app.handle r (w #[])).1.LooksLike (app.handle r' (w #[1, 2, 3])).1 ∧
      (app.calls r (w #[])).length = (app.calls r' (w #[1, 2, 3])).length ∧
      (app.handle r (w #[])).1.events.length = 2 := by
  intro app request w r r'
  have halike := (@seal_looks_alike Kms.Script Unit Unit).2.2.2 app Kms.Script.blind r r' (w #[])
    (w #[1, 2, 3]) rfl rfl (by decide +kernel) (by decide +kernel) rfl (by decide +kernel) rfl
  exact ⟨by decide +kernel, by decide +kernel, halike.1, halike.2.1, by decide +kernel⟩

end PathSeal.Service
