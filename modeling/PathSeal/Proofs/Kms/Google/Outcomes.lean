import PathSeal.Proofs.Base64
import PathSeal.Proofs.Json.Record
import PathSeal.Proofs.Kms.Google.Course
import PathSeal.Proofs.Kms.Local
import PathSeal.Proofs.Text.Split

/-!
# PathSeal.Proofs.Kms.Google.Outcomes

What calls to Google's key service come to, whatever the two servers do. A call is one
request, in just one written form (`Verb.asks`). It succeeds if the key service serves that
request (`Service.Served`), with any JSON that holds the bytes.

A call fails for an outage (`Outage`) or for a reason that stays. Only the former is
worth another try, and only what the key service itself finds wrong is taken for
tampering (`Service.calls_classified`).
-/

namespace PathSeal.Kms.Google

open Service (operationUrl request tokenOfResponse)

variable {σ : Type}

/-! ## Requests -/

/-- The request that has the key service carry out an operation on some bytes. -/
def Verb.asks (verb : Verb) (url : Url) (token : String) (bytes : Bytes) : Request where
  method := "POST"
  url
  authorization := some s!"Bearer {token}"
  metadataFlavor := none
  contentType := some "application/json"
  body :=
    match verb with
    | encrypt => s!"\x7b\"plaintext\":\"{Base64.encodeString bytes}\"\x7d"
    | decrypt => s!"\x7b\"ciphertext\":\"{Base64.encodeString bytes}\"\x7d"

/-- Where the key service is asked for an operation on a key. -/
def Service.address (s : Service σ) (key : Key.Handle) : Verb → String
  | .encrypt => s!"{s.endpoint}/v1/{key.resource}:encrypt"
  | .decrypt => s!"{s.endpoint}/v1/{key.resource}:decrypt"

/-- Nothing in the base64 form of some bytes has to be escaped. -/
theorem writtenString_encodeString (bytes : Bytes) :
    Json.Value.writtenString (Base64.encodeString bytes) =
      '"' :: (Base64.encodeString bytes).toList ++ ['"'] := by
  have hsymbol : ∀ n < 64, Json.Value.writtenChar (Char.ofNat (Base64.symbol n).toNat) =
      [Char.ofNat (Base64.symbol n).toNat] := by decide
  have hplain : ∀ b ∈ Base64.encode bytes,
      Json.Value.writtenChar (Char.ofNat b.toNat) = [Char.ofNat b.toNat] := by
    intro b hb
    rcases Base64.of_mem_encode hb with rfl | ⟨n, hn, rfl⟩
    · decide
    · exact hsymbol n hn
  rw [Json.Value.writtenString, Base64.encodeString, String.toList_ofList, List.flatMap_map,
    List.flatMap_def, List.map_congr_left hplain, ← List.flatMap_def, ← List.map_eq_flatMap]

theorem request_eq_asks (verb : Verb) (url : Url) (token : String) (bytes : Bytes) :
    request verb url token bytes = verb.asks url token bytes := by
  have hbody (given : String)
      (hgiven : given.toList.flatMap Json.Value.writtenChar = given.toList) :
      (Json.Value.object [(given, .text (Base64.encodeString bytes))]).compact =
        s!"\x7b\"{given}\":\"{Base64.encodeString bytes}\"\x7d" := by
    apply String.toList_injective
    have hwritten := writtenString_encodeString bytes
    simp only [Json.Value.writtenString] at hwritten
    simp [Json.Value.compact, Json.Value.written, Json.Value.writtenMembers,
      Json.Value.writtenString, hwritten, hgiven, toString]
  cases verb with
  | encrypt => exact congrArg (Request.mk _ _ _ _ _) (hbody "plaintext" (by decide))
  | decrypt => exact congrArg (Request.mk _ _ _ _ _) (hbody "ciphertext" (by decide))

theorem operationUrl_eq_address (s : Service σ) (verb : Verb) (key : Key.Handle) :
    s.operationUrl verb key = s.address key verb := by
  cases verb with
  | encrypt => simp [operationUrl, Service.address, Verb.name, toString, String.append_assoc]
  | decrypt => simp [operationUrl, Service.address, Verb.name, toString, String.append_assoc]

/-! ## Responses -/

/-- The field of an answer that holds the bytes. -/
def Verb.taken : Verb → String
  | encrypt => "ciphertext"
  | decrypt => "plaintext"

/-- A body is read as the answer that has some text for the bytes. -/
def Verb.Reads (verb : Verb) (body text : String) : Prop :=
  let name := match verb with
    | encrypt => "EncryptResponse"
    | decrypt => "DecryptResponse"
  (Json.Schema.mk name [(verb.taken, .text)]).read body = .ok (text, ())

theorem Verb.field_eq_ok_iff (verb : Verb) (body text : String) :
    verb.field body = .ok text ↔ verb.Reads body text := by
  have hfirst (read : Except Json.Fault (String × Unit)) :
      read.map Prod.fst = .ok text ↔ read = .ok (text, ()) := by
    cases read <;> simp [Except.map, Prod.ext_iff]
  cases verb with
  | encrypt => exact hfirst ((schema .encrypt).read body)
  | decrypt => exact hfirst ((schema .decrypt).read body)

namespace Response

variable (r : Response)

/-- A successful answer with an object that holds some bytes. -/
def Gives (verb : Verb) (out : Bytes) : Prop :=
  r.Succeeds ∧ ∃ entries, Json.WritesObject entries r.body ∧
    Json.Holds [(verb.taken, .text)] (Base64.encodeString out, ()) entries

/-- The metadata server gives no token, and not because there is none. -/
def Withholds : Prop :=
  (¬r.Succeeds ∧ r.status ≠ 403 ∧ r.status ≠ 404) ∨
    (r.Succeeds ∧ ∀ row, tokenSchema.read r.body ≠ .ok row)

/-- The key service does not do its work. -/
def Fails (verb : Verb) : Prop :=
  r.status = 408 ∨ r.status = 429 ∨ 500 ≤ r.status ∨
    (r.Succeeds ∧ ∀ out, ¬verb.Reads r.body (Base64.encodeString out))

/-- The key service finds a wrapped key wrong. -/
def Condemns : Prop :=
  r.status = 400 ∧ ¬"FAILED_PRECONDITION".toList <:+: r.body.toList

end Response

section

variable (verb : Verb) (key : Key.Handle) (r : Response)

/-- The bytes of an answer are those whose written form it has. -/
theorem bytesOfResponse_eq_ok_iff (out : Bytes) :
    bytesOfResponse verb key r = .ok out ↔
      r.Succeeds ∧ verb.Reads r.body (Base64.encodeString out) := by
  rw [← Response.isSuccess_iff, ← Verb.field_eq_ok_iff]
  cases hsuccess : r.isSuccess with
  | false => simp [bytesOfResponse, hsuccess]
  | true =>
    cases hfield : verb.field r.body with
    | error e => simp [bytesOfResponse, hsuccess, hfield]
    | ok text =>
      have hdecode := Base64.decode_ofString_eq_ok_iff text out
      cases hbytes : Base64.decode (Bytes.ofString text) with
      | error e => simp_all [bytesOfResponse]
      | ok bytes => simp_all [bytesOfResponse]

/-- Those that hold bytes give them. -/
theorem bytesOfResponse_of_gives {out : Bytes} (h : r.Gives verb out) :
    bytesOfResponse verb key r = .ok out := by
  obtain ⟨hsuccess, entries, hobject, hholds⟩ := h
  exact (bytesOfResponse_eq_ok_iff verb key r out).mpr
    ⟨hsuccess, Json.Schema.read_of_holds hobject hholds⟩

/-- Any other answer of a success is worth another try. -/
theorem exists_unavailable_of_succeeds (hsuccess : r.Succeeds)
    (h : ∀ out, ¬verb.Reads r.body (Base64.encodeString out)) :
    ∃ detail, bytesOfResponse verb key r = .error (.unavailable detail) := by
  have hpass := r.isSuccess_iff.mpr hsuccess
  cases hfield : verb.field r.body with
  | error e =>
    simp only [bytesOfResponse, hpass, hfield]
    exact ⟨_, rfl⟩
  | ok text =>
    cases hbytes : Base64.decode (Bytes.ofString text) with
    | error e =>
      simp only [bytesOfResponse, hpass, hfield, hbytes]
      exact ⟨_, rfl⟩
    | ok out =>
      have htext : text = Base64.encodeString out :=
        (Base64.decode_ofString_eq_ok_iff text out).mp hbytes
      exact absurd ((verb.field_eq_ok_iff _ _).mp (htext ▸ hfield)) (h out)

theorem bytesOfResponse_of_not_succeeds (h : ¬r.Succeeds) :
    bytesOfResponse verb key r = .error (refusal verb key r) := by
  have hfail : r.isSuccess = false := Bool.eq_false_iff.mpr (mt r.isSuccess_iff.mp h)
  simp [bytesOfResponse, hfail]

/-- A refusal is worth another try if the status says so. -/
theorem isRetryable_refusal :
    (refusal verb key r).isRetryable ↔
      r.status = 408 ∨ r.status = 429 ∨ 500 ≤ r.status := by
  unfold refusal
  grind [Error.isRetryable]

theorem occurs_iff (part whole : String) : occurs part whole ↔ part.toList <:+: whole.toList := by
  rw [occurs, Option.isSome_iff_ne_none, ne_eq, Text.splitOnce_eq_none_iff, not_not]

/-- A refusal is one for tampering if the key service finds a wrapped key wrong. -/
theorem refusal_eq_integrity_iff :
    (∃ detail, refusal verb key r = .integrity detail) ↔ verb = .decrypt ∧ r.Condemns := by
  rw [Response.Condemns, ← occurs_iff]
  constructor
  · rintro ⟨detail, h⟩
    unfold refusal at h
    grind
  · rintro ⟨rfl, hstatus, hoccurs⟩
    simp [refusal, hstatus, hoccurs]

/-- An answer is worth another try if the key service did not do its work. -/
theorem fails_iff :
    r.Fails verb ↔ ∃ e, bytesOfResponse verb key r = .error e ∧ e.isRetryable := by
  have hrefusal := isRetryable_refusal verb key r
  by_cases hsuccess : r.Succeeds
  · have hstatus : 200 ≤ r.status ∧ r.status ≤ 299 := hsuccess
    constructor
    · rintro (h | h | h | ⟨-, h⟩)
      · omega
      · omega
      · omega
      · obtain ⟨detail, hdetail⟩ := exists_unavailable_of_succeeds verb key r hsuccess h
        exact ⟨_, hdetail, rfl⟩
    · rintro ⟨e, he, -⟩
      refine .inr (.inr (.inr ⟨hsuccess, fun out hreads => ?_⟩))
      rw [(bytesOfResponse_eq_ok_iff verb key r out).mpr ⟨hsuccess, hreads⟩] at he
      contradiction
  · rw [bytesOfResponse_of_not_succeeds verb key r hsuccess]
    simp [Response.Fails, hsuccess, hrefusal]

/-- An answer is taken for tampering if the key service finds a wrapped key wrong. -/
theorem bytesOfResponse_eq_integrity_iff :
    (∃ detail, bytesOfResponse verb key r = .error (.integrity detail)) ↔
      verb = .decrypt ∧ r.Condemns := by
  by_cases hsuccess : r.Succeeds
  · have hstatus : 200 ≤ r.status ∧ r.status ≤ 299 := hsuccess
    constructor
    · rintro ⟨detail, h⟩
      have hunread : ∀ out, ¬verb.Reads r.body (Base64.encodeString out) := by
        intro out hreads
        rw [(bytesOfResponse_eq_ok_iff verb key r out).mpr ⟨hsuccess, hreads⟩] at h
        contradiction
      obtain ⟨other, hother⟩ := exists_unavailable_of_succeeds verb key r hsuccess hunread
      rw [hother] at h
      cases h
    · rintro ⟨-, h, -⟩
      omega
  · rw [bytesOfResponse_of_not_succeeds verb key r hsuccess, ← refusal_eq_integrity_iff verb key r]
    simp

/-- The metadata server is worth another try if it gives no token that it may have. -/
theorem withholds_iff : r.Withholds ↔ ∃ e, tokenOfResponse r = .error e ∧ e.isRetryable := by
  unfold Response.Withholds tokenOfResponse
  rw [← r.isSuccess_iff]
  cases hsuccess : r.isSuccess with
  | false =>
    by_cases hstatus : r.status = 404 ∨ r.status = 403
    · simp [hstatus, Error.isRetryable]
      grind
    · simp [hstatus, Error.isRetryable]
      grind
  | true =>
    cases hread : tokenSchema.read r.body with
    | error e => simp [Error.isRetryable]
    | ok row =>
      constructor
      · rintro (⟨h, -⟩ | ⟨-, h⟩)
        · contradiction
        · exact absurd rfl (h row)
      · rintro ⟨e, he, -⟩
        contradiction

end

/-! ## Records -/

/-- The metadata server gave no token for a call, for another reason than that there is none. -/
inductive NoGrant (record : List Exchange) : Prop where
  | closed (h : ⟨tokenRequest, none⟩ ∈ record)
  | withheld {response : Response} (h : ⟨tokenRequest, some response⟩ ∈ record)
    (hresponse : response.Withholds)

/-- The requests that have the key service carry out an operation on some bytes with a key. -/
def Service.Asks (s : Service σ) (verb : Verb) (key : Key.Handle) (bytes : Bytes)
    (r : Request) : Prop :=
  ∃ url token, usableUrl (s.address key verb) (some s!"Bearer {token}") = .ok url ∧
    r = verb.asks url token bytes

/-- The key service answered a request. -/
def Answered (asks : Request → Prop) (record : List Exchange) (response : Response) : Prop :=
  ∃ r, asks r ∧ ⟨r, some response⟩ ∈ record

/-- The key service did not do its work. -/
inductive Failing (verb : Verb) (asks : Request → Prop) (record : List Exchange) : Prop where
  | closed {r : Request} (hasks : asks r) (h : ⟨r, none⟩ ∈ record)
  | answered {response : Response} (h : Answered asks record response)
    (hresponse : response.Fails verb)

/-- A call failed for an outage: there was no token, the request could not be made, or the key
service did not do its work. -/
inductive Outage (s : Service σ) (verb : Verb) (key : Key.Handle) (bytes : Bytes)
    (session : Session σ) (record : List Exchange) : Prop where
  | unsupplied (h : NoGrant record)
  | unsent {token : String} {e : SendError} (htoken : (s.accessToken session).1 = .ok token)
    (hurl : usableUrl (s.address key verb) (some s!"Bearer {token}") = .error e)
  | failed (h : Failing verb (s.Asks verb key bytes) record)

/-! ### Tokens -/

section

variable {s : Service σ} {session after : Session σ} {record : List Exchange}

/-- A call without a token is worth another try if the metadata server may have one. -/
theorem Service.Supply.noGrant_iff {e : Error} (h : s.Supply session record after (.error e)) :
    NoGrant record ↔ e.isRetryable := by
  cases h with
  | lost h hstale hpeer => exact ⟨fun _ => rfl, fun _ => .closed List.mem_cons_self⟩
  | @refused response peer _ h hstale hpeer hgrant =>
    have hwithholds := withholds_iff response
    rw [hgrant] at hwithholds
    constructor
    · rintro (h | ⟨h, hresponse⟩)
      · cases List.mem_singleton.mp h
      · cases List.mem_singleton.mp h
        obtain ⟨e, he, hretryable⟩ := hwithholds.mp hresponse
        cases he
        exact hretryable
    · intro hretryable
      exact .withheld List.mem_cons_self (hwithholds.mpr ⟨e, rfl, hretryable⟩)

/-- There is nothing wrong with a call that has a token. -/
theorem Service.Supply.not_noGrant {token : String}
    (h : s.Supply session record after (.ok token)) : ¬NoGrant record := by
  rintro (hclosed | ⟨hwithheld, hresponse⟩)
  · cases h with
    | fixed h | kept h hfresh => exact absurd hclosed List.not_mem_nil
    | granted h hstale hpeer hgrant => cases List.mem_singleton.mp hclosed
  · cases h with
    | fixed h | kept h hfresh => exact absurd hwithheld List.not_mem_nil
    | granted h hstale hpeer hgrant =>
      cases List.mem_singleton.mp hwithheld
      obtain ⟨e, he, -⟩ := (withholds_iff _).mp hresponse
      rw [hgrant] at he
      contradiction

/-- No token is refused for tampering. -/
theorem Service.Supply.ne_integrity {e : Error} (h : s.Supply session record after (.error e))
    (detail : String) : e ≠ .integrity detail := by
  cases h with
  | lost h hstale hpeer => exact Error.noConfusion
  | refused h hstale hpeer hgrant =>
    rintro rfl
    unfold tokenOfResponse at hgrant
    split at hgrant
    · split at hgrant <;> cases hgrant
    · split at hgrant <;> cases hgrant

end

/-! ### Calls -/

section

variable {s : Service σ} {verb : Verb} {key : Key.Handle} {bytes : Bytes}
  {session after : Session σ} {record : List Exchange} {answer : Except Error Bytes}

theorem Service.asks_request {url : Url} {token : String}
    (hurl : usableUrl (s.operationUrl verb key) (some s!"Bearer {token}") = .ok url) :
    s.Asks verb key bytes (request verb url token bytes) :=
  ⟨url, token, operationUrl_eq_address s verb key ▸ hurl, request_eq_asks verb url token bytes⟩

theorem Service.answered_request {url : Url} {token : String} {response : Response}
    (hurl : usableUrl (s.operationUrl verb key) (some s!"Bearer {token}") = .ok url) :
    Answered (s.Asks verb key bytes)
      (record ++ [⟨request verb url token bytes, some response⟩]) response :=
  ⟨_, asks_request hurl, List.mem_append_right _ List.mem_cons_self⟩

/-- Coming by a token, a call does not ask the key service. -/
theorem Service.Supply.not_mem_of_asks {grant : Except Error String}
    (h : s.Supply session record after grant) {r : Request} (hasks : s.Asks verb key bytes r)
    {response : Option Response} : ⟨r, response⟩ ∉ record := by
  obtain ⟨url, token, -, rfl⟩ := hasks
  rw [← request_eq_asks]
  exact h.not_mem

/-- So there is one exchange with it at most, and one answer. -/
theorem Service.Supply.eq_answer_of_asks {grant : Except Error String}
    (h : s.Supply session record after grant) {r : Request} (hasks : s.Asks verb key bytes r)
    {x : Exchange} {response : Option Response} (hmem : ⟨r, response⟩ ∈ record ++ [x]) :
    response = x.answer := by
  rcases List.mem_append.mp hmem with hmem | hmem
  · exact absurd hmem (h.not_mem_of_asks hasks)
  · exact congrArg Exchange.answer (List.mem_singleton.mp hmem)

/-- A request to the key service is no request for a token. -/
theorem NoGrant.of_append {url : Url} {token : String} {response : Option Response}
    (h : NoGrant (record ++ [⟨request verb url token bytes, response⟩])) : NoGrant record := by
  have hmem {given : Option Response}
      (h : ⟨tokenRequest, given⟩ ∈ record ++ [⟨request verb url token bytes, response⟩]) :
      ⟨tokenRequest, given⟩ ∈ record := by
    rcases List.mem_append.mp h with h | h
    · exact h
    · have hrequest := congrArg Exchange.request (List.mem_singleton.mp h)
      exact absurd hrequest.symm (Service.request_ne_tokenRequest verb url token bytes)
  cases h with
  | closed h => exact .closed (hmem h)
  | withheld h hresponse => exact .withheld (hmem h) hresponse

/-- What the key service answers is what a call comes to. -/
theorem Service.Course.eq_of_answered
    (h : s.Course session verb key bytes record after answer) {response : Response}
    (hanswered : Answered (s.Asks verb key bytes) record response) :
    answer = bytesOfResponse verb key response := by
  obtain ⟨r, hasks, hmem⟩ := hanswered
  cases h with
  | unsupplied h | unsent h hurl => exact absurd hmem (h.not_mem_of_asks hasks)
  | lost h hurl hpeer => cases h.eq_answer_of_asks hasks hmem
  | answered h hurl hpeer =>
    cases h.eq_answer_of_asks hasks hmem
    rfl

/-- A call gives bytes exactly if the key service does. -/
theorem Service.Course.eq_ok_iff (h : s.Course session verb key bytes record after answer)
    (out : Bytes) :
    answer = .ok out ↔ ∃ response, Answered (s.Asks verb key bytes) record response ∧
      response.Succeeds ∧ verb.Reads response.body (Base64.encodeString out) := by
  constructor
  · intro hok
    cases h with
    | unsupplied h | unsent h hurl | lost h hurl hpeer => contradiction
    | @answered _ _ token url response _ h hurl hpeer =>
      exact ⟨response, answered_request hurl,
        (bytesOfResponse_eq_ok_iff verb key response out).mp hok⟩
  · rintro ⟨response, hanswered, hgiven⟩
    rw [h.eq_of_answered hanswered]
    exact (bytesOfResponse_eq_ok_iff verb key response out).mpr hgiven

/-- A call is refused for tampering exactly if the key service finds a wrapped key wrong. -/
theorem Service.Course.integrity_iff (h : s.Course session verb key bytes record after answer) :
    (∃ detail, answer = .error (.integrity detail)) ↔
      ∃ response, Answered (s.Asks verb key bytes) record response ∧
        verb = .decrypt ∧ response.Condemns := by
  constructor
  · rintro ⟨detail, hintegrity⟩
    cases h with
    | unsupplied h => exact absurd (Except.error.inj hintegrity) (h.ne_integrity detail)
    | unsent h hurl | lost h hurl hpeer => cases hintegrity
    | @answered _ _ token url response _ h hurl hpeer =>
      exact ⟨response, answered_request hurl,
        (bytesOfResponse_eq_integrity_iff verb key response).mp ⟨detail, hintegrity⟩⟩
  · rintro ⟨response, hanswered, hcondemns⟩
    rw [h.eq_of_answered hanswered]
    exact (bytesOfResponse_eq_integrity_iff verb key response).mpr hcondemns

/-- A call is worth another try exactly if it failed for an outage. -/
theorem Service.Course.outage_iff (h : s.Course session verb key bytes record after answer) :
    (∃ e, answer = .error e ∧ e.isRetryable) ↔ Outage s verb key bytes session record := by
  constructor
  · rintro ⟨e, he, hretryable⟩
    cases h with
    | unsupplied h =>
      cases he
      exact .unsupplied (h.noGrant_iff.mpr hretryable)
    | unsent h hurl =>
      rw [operationUrl_eq_address] at hurl
      exact .unsent (congrArg Prod.fst h.accessToken_eq) hurl
    | lost h hurl hpeer =>
      exact .failed (.closed (asks_request hurl) (List.mem_append_right _ List.mem_cons_self))
    | @answered _ _ token url response _ h hurl hpeer =>
      exact .failed (.answered (answered_request hurl)
        ((fails_iff verb key response).mpr ⟨e, he, hretryable⟩))
  · rintro (hnone | ⟨htoken, hurl'⟩ | hfailing)
    · cases h with
      | unsupplied h => exact ⟨_, rfl, h.noGrant_iff.mp hnone⟩
      | unsent h hurl => exact absurd hnone h.not_noGrant
      | lost h hurl hpeer | answered h hurl hpeer => exact absurd hnone.of_append h.not_noGrant
    · rw [← operationUrl_eq_address] at hurl'
      cases h with
      | unsupplied h =>
        rw [h.accessToken_eq] at htoken
        contradiction
      | unsent h hurl => exact ⟨_, rfl, rfl⟩
      | lost h hurl hpeer | answered h hurl hpeer =>
        rw [h.accessToken_eq] at htoken
        cases htoken
        rw [hurl] at hurl'
        contradiction
    · cases hfailing with
      | closed hasks hclosed =>
        cases h with
        | unsupplied h | unsent h hurl => exact absurd hclosed (h.not_mem_of_asks hasks)
        | lost h hurl hpeer => exact ⟨_, rfl, rfl⟩
        | answered h hurl hpeer => cases h.eq_answer_of_asks hasks hclosed
      | answered hanswered hresponse =>
        rw [h.eq_of_answered hanswered]
        exact (fails_iff verb key _).mp hresponse

end

/-! ## Wrapping and unwrapping -/

namespace Service

variable (s : Service σ) (key : Key.Handle)

/-- The key service serves a call: there is a token, the request can be made, and its answer gives
some bytes. -/
def Served (verb : Verb) (bytes : Bytes) (session : Session σ) (out : Bytes) : Prop :=
  ∃ token supplied url response, s.accessToken session = (.ok token, supplied) ∧
    usableUrl (s.address key verb) (some s!"Bearer {token}") = .ok url ∧
    (s.peer (verb.asks url token bytes) supplied.peer).1 = some response ∧
    response.Gives verb out

/-- A call that is served gives the bytes. -/
theorem call_of_served {verb : Verb} {bytes out : Bytes} {session : Session σ}
    (h : s.Served key verb bytes session out) : (s.call verb key bytes session).1 = .ok out := by
  obtain ⟨token, supplied, url, response, htoken, hurl, hanswer, hgives⟩ := h
  rw [← operationUrl_eq_address] at hurl
  rw [← request_eq_asks] at hanswer
  obtain ⟨after, hpeer⟩ :
      ∃ after, s.peer (request verb url token bytes) supplied.peer = (some response, after) :=
    ⟨_, Prod.ext hanswer rfl⟩
  rw [call]
  simp only [bind, StateT.bind, htoken, hurl, exchange, hpeer]
  exact bytesOfResponse_of_gives verb key response hgives

/-- A wrap was answered with bytes that can be no wrapped key. -/
def Unusable (dek : Bytes) (record : List Exchange) : Prop :=
  ∃ response out, Answered (s.Asks .encrypt key dek) record response ∧ response.Succeeds ∧
    Verb.encrypt.Reads response.body (Base64.encodeString out) ∧ (out = [] ∨ 8192 < out.length)

/-- An unwrap was answered with the finding that the wrapped key is wrong. -/
def Tampered (wrapped : Bytes) (record : List Exchange) : Prop :=
  ∃ response, Answered (s.Asks .decrypt key wrapped) record response ∧ response.Condemns

/-- Wrapping asks the key service to encrypt and takes its bytes for a wrapped key. -/
theorem wrap_fst (dek : Bytes) (w : World (Session σ)) :
    (s.wrapper.wrap key dek w).1 =
      .now ((s.call .encrypt key dek w.kms).1.bind wrappedOfResponse) := rfl

/-- Unwrapping asks it to decrypt. -/
theorem unwrap_fst (wrapped : Key.Wrapped) (w : World (Session σ)) :
    (s.wrapper.unwrap key wrapped w).1 = .now (s.call .decrypt key wrapped.bytes w.kms).1 := rfl

/-- Taking bytes for a wrapped key is worth another try if getting them was, or if they can be
none. -/
theorem isRetryable_bind_iff (answer : Except Error Bytes) :
    (∃ e, answer.bind wrappedOfResponse = .error e ∧ e.isRetryable) ↔
      (∃ e, answer = .error e ∧ e.isRetryable) ∨
        ∃ out, answer = .ok out ∧ (out = [] ∨ 8192 < out.length) := by
  cases answer with
  | error e => simp [Except.bind]
  | ok out =>
    have hfails : (∃ e, wrappedOfResponse out = .error e) ↔ out = [] ∨ 8192 < out.length :=
      wrappedOfResponse_fails_iff out
    simp only [Except.bind, reduceCtorEq, false_and, exists_false, Except.ok.injEq, false_or,
      exists_eq_left', ← hfails]
    constructor
    · rintro ⟨e, he, -⟩
      exact ⟨e, he⟩
    · rintro ⟨e, he⟩
      obtain ⟨detail, rfl⟩ := exists_unavailable_of_wrappedOfResponse he
      exact ⟨_, he, rfl⟩

theorem eq_integrity_of_bind {answer : Except Error Bytes} {detail : String}
    (h : answer.bind wrappedOfResponse = .error (.integrity detail)) :
    answer = .error (.integrity detail) := by
  cases answer with
  | error e => exact congrArg Except.error (Except.error.inj h)
  | ok out =>
    obtain ⟨other, hother⟩ := exists_unavailable_of_wrappedOfResponse h
    contradiction

theorem now_inj {α : Type} {a b : α} : Timed.now a = Timed.now b ↔ a = b := by
  simp [Timed.now]

/-- Whatever the servers do, wrapping and unwrapping give what the key service serves, they are
worth another try exactly after an outage, and only unwrapping is refused for tampering, exactly if
the key service finds the wrapped key wrong. A wrapped key that cannot be used counts as an
outage. -/
theorem calls_classified (w : World (Session σ)) :
    (∀ dek,
      (∀ wrapped : Key.Wrapped, s.Served key .encrypt dek w.kms wrapped.bytes →
        (s.wrapper.wrap key dek w).1 = .now (.ok wrapped)) ∧
      ((∃ e, (s.wrapper.wrap key dek w).1 = .now (.error e) ∧ e.isRetryable) ↔
        Outage s .encrypt key dek w.kms (s.record w.kms .encrypt key dek) ∨
          s.Unusable key dek (s.record w.kms .encrypt key dek)) ∧
      ∀ detail, (s.wrapper.wrap key dek w).1 ≠ .now (.error (.integrity detail))) ∧
    ∀ wrapped : Key.Wrapped,
      (∀ dek, s.Served key .decrypt wrapped.bytes w.kms dek →
        (s.wrapper.unwrap key wrapped w).1 = .now (.ok dek)) ∧
      ((∃ e, (s.wrapper.unwrap key wrapped w).1 = .now (.error e) ∧ e.isRetryable) ↔
        Outage s .decrypt key wrapped.bytes w.kms (s.record w.kms .decrypt key wrapped.bytes)) ∧
      ((∃ detail, (s.wrapper.unwrap key wrapped w).1 = .now (.error (.integrity detail))) ↔
        s.Tampered key wrapped.bytes (s.record w.kms .decrypt key wrapped.bytes)) := by
  have hencrypt (dek : Bytes) := s.course w.kms .encrypt key dek
  have hdecrypt (wrapped : Bytes) := s.course w.kms .decrypt key wrapped
  refine ⟨fun dek => ⟨?_, ?_, ?_⟩, fun wrapped => ⟨?_, ?_, ?_⟩⟩
  · intro wrapped hserved
    rw [wrap_fst, s.call_of_served key hserved]
    exact congrArg Timed.now ((wrappedOfResponse_eq_ok_iff _ _).mpr rfl)
  · rw [wrap_fst]
    simp only [now_inj]
    rw [isRetryable_bind_iff, (hencrypt dek).outage_iff, Unusable]
    simp only [(hencrypt dek).eq_ok_iff]
    grind
  · intro detail hwrap
    rw [wrap_fst, now_inj] at hwrap
    obtain ⟨response, -, hverb, -⟩ :=
      (hencrypt dek).integrity_iff.mp ⟨detail, eq_integrity_of_bind hwrap⟩
    contradiction
  · intro dek hserved
    rw [unwrap_fst, s.call_of_served key hserved]
  · rw [unwrap_fst]
    simp only [now_inj]
    exact (hdecrypt wrapped.bytes).outage_iff
  · rw [unwrap_fst]
    simp only [now_inj]
    rw [(hdecrypt wrapped.bytes).integrity_iff]
    simp [Tampered]

/-- A key service that answers two requests with an object each and finds anything else
wrong. -/
def answering (encrypted decrypted : List (String × Json.Value)) : Service Unit where
  endpoint := "http://[::1]:8080"
  credentials := .fixed "token"
  peer r := pure <| some <|
    if r.url.tail = "/v1/k:encrypt".toList ∧ r.body = "\x7b\"plaintext\":\"AQIDBAU=\"\x7d" then
      ⟨200, (Json.Value.object encrypted).compact⟩
    else if r.url.tail = "/v1/k:decrypt".toList ∧ r.body = "\x7b\"ciphertext\":\"BAUG\"\x7d" then
      ⟨200, (Json.Value.object decrypted).compact⟩
    else ⟨400, ""⟩

/-- Five bytes are wrapped as three, and unwrapped again, by objects with further members. Another
wrapped key is found to be tampered with. -/
theorem calls_classified_answering :
    let encrypted : List (String × Json.Value) :=
      [("name", .text "k"), ("ciphertext", .text "BAUG"), ("valid", .boolean true)]
    let decrypted : List (String × Json.Value) :=
      [("plaintext", .text "AQIDBAU="), ("usedPrimary", .boolean true)]
    let s := answering encrypted decrypted
    let key : Key.Handle := ⟨.gcp, "k"⟩
    let w : World (Session Unit) := ⟨⟨fun _ => 0, 0⟩, ⟨0, none, ()⟩⟩
    let wrapped : Key.Wrapped := ⟨[4, 5, 6], by decide, by decide⟩
    let other : Key.Wrapped := ⟨[4, 5, 7], by decide, by decide⟩
    (s.wrapper.wrap key [1, 2, 3, 4, 5] w).1 = .now (.ok wrapped) ∧
      (s.wrapper.unwrap key wrapped w).1 = .now (.ok [1, 2, 3, 4, 5]) ∧
      ∃ detail, (s.wrapper.unwrap key other w).1 = .now (.error (.integrity detail)) := by
  intro encrypted decrypted s key w wrapped other
  let url (verb : Verb) : Url :=
    ⟨"http".toList, none, "[::1]:8080".toList, s!"/v1/k:{verb.name}".toList⟩
  let token := "token"
  have hurl (verb : Verb) :
      usableUrl (s.address key verb) (some s!"Bearer {token}") = .ok (url verb) := by
    cases verb <;> decide +kernel
  have hstatus : 200 ≤ 200 ∧ 200 ≤ 299 := by decide
  have htrue : Json.Derives .value (Json.Value.boolean true).written := .named (by decide)
  have hencrypt : s.Served key .encrypt [1, 2, 3, 4, 5] w.kms [4, 5, 6] := by
    have hholds : Json.Holds [("ciphertext", .text)] (Base64.encodeString [4, 5, 6], ())
        (encrypted.map fun m => (m.1, m.2.written)) :=
      ⟨[_], _, [_], rfl, Json.writes_writtenString "BAUG", by decide,
        by simp [Json.Holds, htrue, Json.derives_text]⟩
    have hanswer : (s.peer (Verb.encrypt.asks (url .encrypt) token [1, 2, 3, 4, 5]) ()).1 =
        some ⟨200, (Json.Value.object encrypted).compact⟩ := by decide +kernel
    exact ⟨token, w.kms, url .encrypt, _, rfl, hurl .encrypt, hanswer, hstatus, _,
      Json.writesObject_compact encrypted, hholds⟩
  have hdecrypt : s.Served key .decrypt [4, 5, 6] w.kms [1, 2, 3, 4, 5] := by
    have hholds : Json.Holds [("plaintext", .text)] (Base64.encodeString [1, 2, 3, 4, 5], ())
        (decrypted.map fun m => (m.1, m.2.written)) :=
      ⟨[], _, [_], rfl, Json.writes_writtenString "AQIDBAU=", by decide,
        by simp [Json.Holds, htrue]⟩
    have hanswer : (s.peer (Verb.decrypt.asks (url .decrypt) token [4, 5, 6]) ()).1 =
        some ⟨200, (Json.Value.object decrypted).compact⟩ := by decide +kernel
    exact ⟨token, w.kms, url .decrypt, _, rfl, hurl .decrypt, hanswer, hstatus, _,
      Json.writesObject_compact decrypted, hholds⟩
  have htampered : s.Tampered key [4, 5, 7] (s.record w.kms .decrypt key [4, 5, 7]) :=
    ⟨⟨400, ""⟩, ⟨Verb.decrypt.asks (url .decrypt) token [4, 5, 7], ⟨_, _, hurl .decrypt, rfl⟩,
      by decide +kernel⟩, rfl, by decide⟩
  have hcalls := calls_classified s key w
  exact ⟨(hcalls.1 _).1 wrapped hencrypt, (hcalls.2 wrapped).1 _ hdecrypt,
    (hcalls.2 other).2.2.mpr htampered⟩

end Service

end PathSeal.Kms.Google
