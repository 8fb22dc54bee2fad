import PathSeal.Proofs.Envelope.Faults
import PathSeal.Proofs.Service.Calls

/-!
# PathSeal.Proofs.Service.Audit

Integrity faults, as the client sees them and as the log does. The client is told the
same for each of them, by whatever service (`handle_integrity_fault`). The log gets one
event of its own for each, after the events of the attempts before; it names the
operation, the path and the kind of the fault, and not its text. No other request leads
to such an event.

What an integrity fault is the codec decides: `Rejected` lists its causes.
-/

namespace PathSeal.Service

open Bytes
open Envelope (Codec Encryptable)
open Kms (World)
open RetryPolicy (stateAfter answer lastOf elapsed reached)

/-! ## Causes -/

/-- The causes of an integrity fault of one attempt: the key service rejects the wrapped key in
time; or it gives back in time what is no key, or a key under which the payload does not verify. -/
inductive Rejected (codec : Codec κ) (key : Key.Handle) (path : String) (w : World κ) :
    Operation → Bytes → Envelope.IntegrityFailure → Prop
  | wrapping {plaintext : Bytes} {detail : String} (hpath : path ≠ "")
      (hlengths : Encryptable path plaintext)
      (htime : (codec.wrapper.wrap key (Codec.drawnKey w).val (Codec.afterDraws w)).1.millis ≤
        codec.options.kmsTimeout.ticks)
      (hreply : (codec.wrapper.wrap key (Codec.drawnKey w).val (Codec.afterDraws w)).1.value =
        .error (.integrity detail)) :
      Rejected codec key path w .sealing plaintext (.wrappedKey detail)
  | unwrapping {e : Envelope} {detail : String} (hpath : path ≠ "")
      (htime : (codec.wrapper.unwrap key e.wrappedKey w).1.millis ≤ codec.options.kmsTimeout.ticks)
      (hreply : (codec.wrapper.unwrap key e.wrappedKey w).1.value = .error (.integrity detail)) :
      Rejected codec key path w .opening (Envelope.encode e) (.wrappedKey detail)
  | length {e : Envelope} {material : Bytes} (hpath : path ≠ "")
      (htime : (codec.wrapper.unwrap key e.wrappedKey w).1.millis ≤ codec.options.kmsTimeout.ticks)
      (hreply : (codec.wrapper.unwrap key e.wrappedKey w).1.value = .ok material)
      (hlength : material.length ≠ Cipher.keyLength) :
      Rejected codec key path w .opening (Envelope.encode e)
        (.wrappedKey (s!"unwrapped key has invalid length: " ++
          s!"expected {Cipher.keyLength} bytes, got {material.length}"))
  | tag {e : Envelope} {dek : Key.Data} (hpath : path ≠ "")
      (htime : (codec.wrapper.unwrap key e.wrappedKey w).1.millis ≤ codec.options.kmsTimeout.ticks)
      (hreply : (codec.wrapper.unwrap key e.wrappedKey w).1.value = .ok dek.val)
      (htag : Cipher.decrypt codec.options.algorithm dek.val e.nonce.val e.ciphertext e.tag.val
        (ofString path) = .error .authentication) :
      Rejected codec key path w .opening (Envelope.encode e) .authentication

/-- A bounded call fails an integrity check exactly if the service says so in time. -/
theorem bounded_value_eq_integrity_iff (op : String) (limit : Duration)
    (reply : Kms.Timed (Except Kms.Error α)) (failure : Envelope.IntegrityFailure) :
    (Envelope.bounded op limit reply).value = .error (.integrity failure) ↔
      reply.millis ≤ limit.ticks ∧ ∃ detail, reply.value = .error (.integrity detail) ∧
        failure = .wrappedKey detail := by
  rw [Envelope.bounded_value_eq_error_iff]
  constructor
  · rintro (⟨-, hfault⟩ | ⟨htime, e, hreply, hfault⟩)
    · contradiction
    · cases e with
      | integrity detail => exact ⟨htime, detail, hreply, Envelope.Error.integrity.inj hfault⟩
      | _ => contradiction
  · rintro ⟨htime, detail, hreply, rfl⟩
    exact .inr ⟨htime, .integrity detail, hreply, rfl⟩

namespace App

variable (app : App κ) (op : Operation) (key : Key.Handle) (path : String) (body : Bytes)
  (w : World κ) (failure : Envelope.IntegrityFailure)

/-- An attempt fails an integrity check for one of these causes. -/
theorem attempt_eq_integrity_iff :
    (app.attempt op key path body w).1.value = .error (.integrity failure) ↔
      Rejected app.codec key path w op body failure := by
  cases op with
  | sealing =>
    rw [attempt, Codec.sealToBytes_eq_error_iff, Codec.wrapAnswer, bounded_value_eq_integrity_iff]
    constructor
    · rintro (⟨-, hfault⟩ | ⟨-, -, hfault⟩ | ⟨hpath, hlengths, htime, detail, hreply, rfl⟩)
      · contradiction
      · contradiction
      · exact .wrapping hpath hlengths htime hreply
    · intro h
      cases h with
      | wrapping hpath hlengths htime hreply =>
        exact .inr (.inr ⟨hpath, hlengths, htime, _, hreply, rfl⟩)
  | opening =>
    rw [attempt, Codec.openBytes_eq_error_iff]
    constructor
    · rintro (hlayout | ⟨e, hbytes,
        ⟨-, hfault⟩ | ⟨hpath, hreply⟩ | ⟨hpath, material, hreply, hdec⟩⟩)
      · obtain ⟨reason, hreason⟩ := Envelope.exists_malformed_of_ofBytes hlayout
        contradiction
      · contradiction
      · rw [Codec.unwrapAnswer, bounded_value_eq_integrity_iff] at hreply
        obtain ⟨htime, detail, hreply, rfl⟩ := hreply
        rw [← (Envelope.ofBytes_eq_ok_iff body e).mp hbytes]
        exact .unwrapping hpath htime hreply
      · obtain ⟨htime, hreply⟩ := (Envelope.bounded_value_eq_ok_iff ..).mp hreply
        rw [← (Envelope.ofBytes_eq_ok_iff body e).mp hbytes]
        rcases (Envelope.decryptWith_eq_error_iff ..).mp hdec with
          ⟨hlength, hfault⟩ | ⟨dek, rfl, htag, hfault⟩
        · rw [Envelope.Error.integrity.inj hfault]
          exact .length hpath htime hreply hlength
        · rw [Envelope.Error.integrity.inj hfault]
          exact .tag hpath htime hreply htag
    · intro h
      have hbytes (e : Envelope) := (Envelope.ofBytes_eq_ok_iff (Envelope.encode e) e).mpr rfl
      cases h with
      | @unwrapping e detail hpath htime hreply =>
        refine .inr ⟨e, hbytes e, .inr (.inl ⟨hpath, ?_⟩)⟩
        exact (bounded_value_eq_integrity_iff ..).mpr ⟨htime, detail, hreply, rfl⟩
      | @length e material hpath htime hreply hlength =>
        refine .inr ⟨e, hbytes e, .inr (.inr ⟨hpath, material, ?_, ?_⟩)⟩
        · exact (Envelope.bounded_value_eq_ok_iff ..).mpr ⟨htime, hreply⟩
        · exact (Envelope.decryptWith_eq_error_iff ..).mpr (.inl ⟨hlength, rfl⟩)
      | @tag e dek hpath htime hreply htag =>
        refine .inr ⟨e, hbytes e, .inr (.inr ⟨hpath, dek.val, ?_, ?_⟩)⟩
        · exact (Envelope.bounded_value_eq_ok_iff ..).mpr ⟨htime, hreply⟩
        · exact (Envelope.decryptWith_eq_error_iff ..).mpr (.inr ⟨dek, rfl, htag, rfl⟩)

/-! ## Requests -/

/-- The codec comes to an integrity fault before the time of the request is over. -/
def FailsIntegrity (r : Request) (w : World κ) : Prop :=
  ∃ failure, app.codecResult r w = some (.error (.integrity failure))

variable {app} {r : Request} {w : World κ}

/-- So its last attempt has one of the causes. -/
theorem failsIntegrity_iff :
    app.FailsIntegrity r w ↔ ∃ op path key failure,
      app.codecCall r = some (op, path, key) ∧
      let operation := app.attempt op key path r.body
      let last := lastOf operation w app.retry
      elapsed operation w app.retry last < requestTimeout ∧
        Rejected app.codec key path (stateAfter operation w (last - 1)) op r.body failure := by
  constructor
  · rintro ⟨failure, hresult⟩
    rw [codecResult] at hresult
    split at hresult
    · next op path key hcall =>
      have hreach := RetryPolicy.not_reached_of_outcome _ _ _ _ _ hresult
      have hrun := RetryPolicy.run_of_not_reached _ w app.retry (some requestTimeout) op.name hreach
      rw [hrun] at hresult
      refine ⟨op, path, key, failure, hcall, ?_, ?_⟩
      · exact Nat.lt_of_not_le (of_decide_eq_false hreach)
      · exact (attempt_eq_integrity_iff ..).mp (Option.some.inj hresult)
    · contradiction
  · rintro ⟨op, path, key, failure, hcall, htime, hcause⟩
    have hrun := RetryPolicy.run_of_not_reached _ w app.retry (some requestTimeout) op.name
      (decide_eq_false (Nat.not_le_of_lt htime))
    refine ⟨failure, ?_⟩
    simp only [codecResult, hcall, hrun]
    exact congrArg some ((attempt_eq_integrity_iff ..).mpr hcause)

/-- What a request that fails an integrity check comes to. -/
theorem handle_of_failsIntegrity (h : app.FailsIntegrity r w) :
    (app.handle r w).1.response = .ofError (.badRequest "envelope failed integrity check") ∧
    ∃ op path key failure events, app.codecCall r = some (op, path, key) ∧
      (app.handle r w).1.events = events ++ [faultEvent op path (.integrity failure)] ∧
      ∀ event ∈ events, ∃ attempt e, event = app.retry.retryEvent op.name attempt e := by
  obtain ⟨failure, hresult⟩ := h
  rw [codecResult] at hresult
  split at hresult
  · next op path key hcall =>
    have hregular := RetryPolicy.run_regular (app.attempt op key path r.body) app.retry
      (some requestTimeout) op.name w
    rw [app.outcome_of_error hcall w hresult]
    refine ⟨?_, op, path, key, failure, _, hcall, rfl, hregular.events⟩
    cases failure with
    | authentication => rfl
    | wrappedKey detail => rfl
  · contradiction

/-- Every event of a request is that of an attempt that is followed by another, or that of what the
codec has made, or that of the fault that it comes to. -/
theorem eq_of_mem_events {event : Log.Event} (h : event ∈ (app.handle r w).1.events) :
    (∃ op attempt e, event = app.retry.retryEvent op attempt e) ∨
      (event.level = .debug ∧ (event.message = "sealed" ∨ event.message = "opened")) ∨
      ∃ op path e, app.codecResult r w = some (.error e) ∧ event = faultEvent op path e := by
  cases hcall : app.codecCall r with
  | none =>
    obtain ⟨response, hsettled⟩ := app.handle_settled hcall
    have hhandle : app.handle r w = (⟨response, 0, []⟩, w) := hsettled κ app.codec w
    rw [hhandle] at h
    exact absurd h List.not_mem_nil
  | some call =>
    obtain ⟨op, path, key⟩ := call
    have hregular := RetryPolicy.run_regular (app.attempt op key path r.body) app.retry
      (some requestTimeout) op.name w
    have hretry {event : Log.Event} (hmem : event ∈
        (app.retry.run (some requestTimeout) op.name (app.attempt op key path r.body) w).1.events) :
        ∃ op attempt e, event = app.retry.retryEvent op attempt e :=
      ⟨op.name, hregular.events event hmem⟩
    cases houtcome : (app.retry.run (some requestTimeout) op.name
        (app.attempt op key path r.body) w).1.outcome with
    | none =>
      rw [app.outcome_of_none hcall w houtcome] at h
      exact .inl (hretry h)
    | some result =>
      cases result with
      | ok bytes =>
        obtain ⟨w', last, hmade, hhandle⟩ := app.outcome_of_ok hcall w houtcome
        rw [hhandle] at h
        rcases List.mem_append.mp h with hmem | hmem
        · exact .inl (hretry hmem)
        · rw [List.mem_singleton.mp hmem]
          exact .inr (.inl (app.message_of_attemptLogged op key path r.body w' hmade))
      | error e =>
        rw [app.outcome_of_error hcall w houtcome] at h
        rcases List.mem_append.mp h with hmem | hmem
        · exact .inl (hretry hmem)
        · refine .inr (.inr ⟨op, path, e, ?_, List.mem_singleton.mp hmem⟩)
          rw [codecResult, hcall]
          exact houtcome

/-- The event of a fault has the message of an integrity violation only for an integrity fault. -/
theorem exists_integrity_of_message {op : Operation} {path : String} {e : Envelope.Error}
    (h : (faultEvent op path e).message = "envelope integrity violation") :
    ∃ failure, e = .integrity failure := by
  cases e with
  | integrity failure => exact ⟨failure, rfl⟩
  | _ => simp [faultEvent, Envelope.Error.isSecurityViolation] at h

end App

/-- **Integrity faults look the same to clients, and each is logged.** If the codec comes to an
integrity fault for two requests, to the same service or to two different ones, both are responded
to in the same way, with the status 400. The last event of such a request is an error that names the
operation, the path and the kind of the fault, and nothing else; all events before it are warnings
about attempts that are followed by another. A request for which the codec does not come to an
integrity fault has no event with this message.

The causes may be any: a wrapped key that the key service rejects with whatever text, a key of
whatever wrong length, or a payload that does not verify. -/
theorem handle_integrity_fault (app : App κ) (app' : App κ') (r r' : Request) (w : World κ)
    (w' : World κ') (h : app.FailsIntegrity r w) (h' : app'.FailsIntegrity r' w') :
    (app.handle r w).1.response = (app'.handle r' w').1.response ∧
    (app.handle r w).1.response.status = 400 ∧
    (∃ op path key failure events, app.codecCall r = some (op, path, key) ∧
      (app.handle r w).1.events = events ++
        [{ level := .error
           target := "sealer::server::handlers"
           message := "envelope integrity violation"
           fields := [("op", .text op.name), ("object_path", .text path),
            ("kind", .text (Envelope.Error.integrity failure).kind.name)] }] ∧
      ∀ event ∈ events, event.level = .warn ∧ event.message = "KMS unavailable, retrying") ∧
    (∀ r w, (∃ event ∈ (app.handle r w).1.events,
      event.message = "envelope integrity violation") ↔ app.FailsIntegrity r w) ∧
    ∀ r w, app.FailsIntegrity r w ↔ ∃ op path key failure,
      app.codecCall r = some (op, path, key) ∧
      let operation := app.attempt op key path r.body
      let last := lastOf operation w app.retry
      elapsed operation w app.retry last < requestTimeout ∧
        Rejected app.codec key path (stateAfter operation w (last - 1)) op r.body failure := by
  obtain ⟨hresponse, op, path, key, failure, events, hcall, hevents, hretry⟩ :=
    App.handle_of_failsIntegrity h
  obtain ⟨hresponse', -⟩ := App.handle_of_failsIntegrity h'
  refine ⟨by rw [hresponse, hresponse'], by rw [hresponse]; rfl, ?_, ?_, ?_⟩
  · refine ⟨op, path, key, failure, events, hcall, hevents, ?_⟩
    intro event hmem
    obtain ⟨attempt, e, rfl⟩ := hretry event hmem
    exact ⟨rfl, rfl⟩
  · intro r w
    constructor
    · rintro ⟨event, hmem, hmessage⟩
      rcases App.eq_of_mem_events hmem with
        ⟨op, attempt, e, rfl⟩ | ⟨-, hmade⟩ | ⟨op, path, e, hresult, rfl⟩
      · simp [RetryPolicy.retryEvent] at hmessage
      · simp [hmessage] at hmade
      · obtain ⟨failure, rfl⟩ := App.exists_integrity_of_message hmessage
        exact ⟨failure, hresult⟩
    · intro h
      obtain ⟨-, op, path, key, failure, events, -, hevents, -⟩ := App.handle_of_failsIntegrity h
      refine ⟨faultEvent op path (.integrity failure), ?_, rfl⟩
      rw [hevents]
      exact List.mem_append_right events (List.mem_singleton_self _)
  · intro r w
    exact App.failsIntegrity_iff

/-- A wrapped key that the service rejects after a first failed attempt, and a payload that does not
verify. -/
theorem handle_integrity_fault_rejected_and_tampered :
    let service (algorithm : Cipher.Algorithm) (key : String) : App Kms.Script :=
      ⟨⟨Kms.Script.wrapper, ⟨algorithm, .ofSeconds 10⟩⟩, .always ⟨.gcp, key⟩, "x-object-path",
        .standard, 1024, true⟩
    let app := service .aes256GcmSiv "k"
    let r : Request := ⟨"POST", "/seal", [("X-Object-Path", ofString "gs://bucket/run")],
      ofString "weights"⟩
    let w : World Kms.Script := ⟨.cyclic #[],
      [⟨5, .fail (.unavailable "busy")⟩, ⟨0, .fail (.integrity "checksum mismatch")⟩]⟩
    let app' := service .aes256Gcm "other"
    let r' : Request := ⟨"POST", "/open", [("X-Object-Path", ofString "gs://elsewhere/x")],
      [0, 0, 0, 1, 7] ++ List.replicate 28 0⟩
    let w' : World Kms.Script := ⟨.cyclic #[], [⟨0, .give (List.replicate 32 0)⟩]⟩
    app.FailsIntegrity r w ∧ app'.FailsIntegrity r' w' ∧
      (app.handle r w).1.response = (app'.handle r' w').1.response ∧
      (app.handle r w).1.response.status = 400 ∧ (app.handle r w).1.events.length = 2 := by
  intro service app r w app' r' w'
  have h : app.FailsIntegrity r w := ⟨.wrappedKey "checksum mismatch", by decide +kernel⟩
  have h' : app'.FailsIntegrity r' w' := ⟨.authentication, by decide +kernel⟩
  obtain ⟨hresponse, hstatus, -⟩ := handle_integrity_fault app app' r r' w w' h h'
  exact ⟨h, h', hresponse, hstatus, by decide +kernel⟩

end PathSeal.Service
