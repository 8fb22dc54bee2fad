import PathSeal.Kms.Google

/-!
# PathSeal.Proofs.Kms.Google.Course

The courses that a call to Google's key service can take. What goes over the wire is
noted by the peer (`Service.recorded`), which changes nothing else
(`Service.agrees_call`).

A call comes by a token first (`Supply`): it may be at hand or have to be fetched. Then
there is at most one request to the key service, and what comes back decides the call
(`Course`). So every call has one of a few records, and its result and the token that is
kept go with it (`Service.course`).
-/

namespace PathSeal.Kms.Google

variable {σ : Type}

/-- A status that says that a request succeeded. -/
def Response.Succeeds (r : Response) : Prop :=
  200 ≤ r.status ∧ r.status ≤ 299

theorem Response.isSuccess_iff (r : Response) : r.isSuccess ↔ r.Succeeds := by
  simp [isSuccess, Succeeds]

/-! ## Recorded exchanges -/

/-- A request and its answer, unless the connection was closed. -/
structure Exchange where
  request : Request
  answer : Option Response
deriving DecidableEq

/-- The same peer, with a record of the exchanges. -/
def Peer.recorded (peer : Peer σ) : Peer (σ × List Exchange) :=
  fun request state =>
    let (answer, next) := peer request state.1
    (answer, next, state.2 ++ [⟨request, answer⟩])

/-- The same backend, with a record of the exchanges. -/
def Service.recorded (s : Service σ) : Service (σ × List Exchange) where
  endpoint := s.endpoint
  credentials := s.credentials
  peer := s.peer.recorded

namespace Session

/-- A session whose record begins. -/
def recording (session : Session σ) : Session (σ × List Exchange) where
  now := session.now
  token := session.token
  peer := (session.peer, [])

/-- A session without its record. -/
def erased (session : Session (σ × List Exchange)) : Session σ where
  now := session.now
  token := session.token
  peer := session.peer.1

end Session

/-- A computation with a record does what one without it does. -/
def Agrees {α : Type} (noted : StateM (Session (σ × List Exchange)) α)
    (plain : StateM (Session σ) α) : Prop :=
  ∀ session, ((noted session).1, (noted session).2.erased) = plain session.erased

namespace Agrees

variable {α β : Type}

theorem bind {noted : StateM (Session (σ × List Exchange)) α} {plain : StateM (Session σ) α}
    {next : α → StateM (Session (σ × List Exchange)) β} {next' : α → StateM (Session σ) β}
    (h : Agrees noted plain) (hnext : ∀ a, Agrees (next a) (next' a)) :
    Agrees (noted >>= next) (plain >>= next') := by
  intro session
  have hfirst := h session
  have hsecond := hnext (noted session).1 (noted session).2
  show _ = next' (plain session.erased).1 (plain session.erased).2
  rw [← hfirst]
  exact hsecond

theorem pure (a : α) :
    Agrees (Pure.pure a : StateM (Session (σ × List Exchange)) α) (Pure.pure a) :=
  fun _ => rfl

end Agrees

namespace Service

section

variable (s : Service σ) {session : Session σ}

/-! ## Tokens -/

/-- A token is fetched with one exchange. -/
theorem fetchToken_eq :
    s.fetchToken session =
      match s.exchange tokenRequest session with
      | (.error e, session) =>
        (.error (.unavailable s!"metadata server unreachable: {e.message}"), session)
      | (.ok response, session) => (tokenOfResponse response, session) := by
  simp only [fetchToken, bind, StateT.bind]
  cases s.exchange tokenRequest session with
  | mk answer after =>
    cases answer with
    | error e => rfl
    | ok response => rfl

/-- A fixed token is at hand. -/
theorem accessToken_of_fixed {token : String} (h : s.credentials = .fixed token) :
    s.accessToken session = (.ok token, session) := by
  rw [accessToken, h]
  rfl

variable (h : s.credentials = .metadataServer)

include h

/-- So is one that may still be used. -/
theorem accessToken_of_fresh {token : String} (hfresh : freshToken? session = some token) :
    s.accessToken session = (.ok token, session) := by
  simp only [accessToken, h, bind, StateT.bind, get, getThe, MonadStateOf.get, StateT.get, pure,
    hfresh]
  rfl

/-- Otherwise one is fetched and kept. -/
theorem accessToken_of_stale (hstale : freshToken? session = none) :
    s.accessToken session =
      match s.fetchToken session with
      | (.error e, session) => (.error e, session)
      | (.ok (token, lifetime), session) =>
        (.ok token,
          { session with token := some ⟨token, session.now + usableNanos lifetime⟩ }) := by
  simp only [accessToken, h, bind, StateT.bind, get, getThe, MonadStateOf.get, StateT.get, pure,
    hstale]
  cases hfetch : s.fetchToken session with
  | mk answer session' =>
    cases answer with
    | error e => rfl
    | ok grant => rfl

end

section

variable (s : Service σ)

theorem agrees_exchange (request : Request) :
    Agrees (s.recorded.exchange request) (s.exchange request) :=
  fun _ => rfl

/-- Tokens are fetched as without a record. -/
theorem agrees_fetchToken : Agrees s.recorded.fetchToken s.fetchToken := by
  apply (s.agrees_exchange tokenRequest).bind
  intro answer
  cases answer with
  | error e => exact .pure _
  | ok response => exact .pure _

/-- So are they kept. -/
theorem agrees_accessToken : Agrees s.recorded.accessToken s.accessToken := by
  intro session
  cases hcred : s.credentials with
  | fixed token =>
    have hnoted : s.recorded.credentials = .fixed token := hcred
    rw [accessToken_of_fixed s hcred, accessToken_of_fixed s.recorded hnoted]
  | metadataServer =>
    have hnoted : s.recorded.credentials = .metadataServer := hcred
    have hsame : freshToken? session.erased = freshToken? session := rfl
    cases hfresh : freshToken? session with
    | some token =>
      rw [accessToken_of_fresh s hcred (hsame.trans hfresh),
        accessToken_of_fresh s.recorded hnoted hfresh]
    | none =>
      have hfetch := s.agrees_fetchToken session
      rw [accessToken_of_stale s hcred (hsame.trans hfresh),
        accessToken_of_stale s.recorded hnoted hfresh, ← hfetch]
      cases s.recorded.fetchToken session with
      | mk answer session' =>
        cases answer with
        | error e => rfl
        | ok grant => rfl

/-- So are calls made. -/
theorem agrees_call (verb : Verb) (key : Key.Handle) (bytes : Bytes) :
    Agrees (s.recorded.call verb key bytes) (s.call verb key bytes) := by
  apply s.agrees_accessToken.bind
  intro answer
  cases answer with
  | error e => exact .pure _
  | ok token =>
    have hurl : s.recorded.operationUrl verb key = s.operationUrl verb key := rfl
    dsimp only
    rw [hurl]
    cases usableUrl (s.operationUrl verb key) (some s!"Bearer {token}") with
    | error e => exact .pure _
    | ok url =>
      apply (s.agrees_exchange _).bind
      intro answer
      cases answer with
      | error e => exact .pure _
      | ok response => exact .pure _

end

/-! ## Courses -/

/-- How a call comes by its token: the exchanges for it, the session after them, and the token. -/
inductive Supply (s : Service σ) (session : Session σ) :
    List Exchange → Session σ → Except Error String → Prop where
  | fixed {token : String} (h : s.credentials = .fixed token) :
    Supply s session [] session (.ok token)
  | kept {token : String} (h : s.credentials = .metadataServer)
    (hfresh : freshToken? session = some token) : Supply s session [] session (.ok token)
  | lost {peer : σ} (h : s.credentials = .metadataServer) (hstale : freshToken? session = none)
    (hpeer : s.peer tokenRequest session.peer = (none, peer)) :
    Supply s session [⟨tokenRequest, none⟩] { session with peer }
      (.error (.unavailable
        s!"metadata server unreachable: {(SendError.closed metadataUrl).message}"))
  | refused {response : Response} {peer : σ} {e : Error} (h : s.credentials = .metadataServer)
    (hstale : freshToken? session = none)
    (hpeer : s.peer tokenRequest session.peer = (some response, peer))
    (hgrant : tokenOfResponse response = .error e) :
    Supply s session [⟨tokenRequest, some response⟩] { session with peer } (.error e)
  | granted {response : Response} {peer : σ} {token : String} {lifetime : UInt64}
    (h : s.credentials = .metadataServer) (hstale : freshToken? session = none)
    (hpeer : s.peer tokenRequest session.peer = (some response, peer))
    (hgrant : tokenOfResponse response = .ok (token, lifetime)) :
    Supply s session [⟨tokenRequest, some response⟩]
      { session with token := some ⟨token, session.now + usableNanos lifetime⟩, peer } (.ok token)

/-- The courses of a call: its exchanges, the session after them, and its result. -/
inductive Course (s : Service σ) (session : Session σ) (verb : Verb) (key : Key.Handle)
    (bytes : Bytes) : List Exchange → Session σ → Except Error Bytes → Prop where
  | unsupplied {record : List Exchange} {after : Session σ} {e : Error}
    (h : Supply s session record after (.error e)) :
    Course s session verb key bytes record after (.error e)
  | unsent {record : List Exchange} {after : Session σ} {token : String} {e : SendError}
    (h : Supply s session record after (.ok token))
    (hurl : usableUrl (s.operationUrl verb key) (some s!"Bearer {token}") = .error e) :
    Course s session verb key bytes record after
      (.error (.unavailable s!"{verb.name} on {key}: {e.message}"))
  | lost {record : List Exchange} {supplied : Session σ} {token : String} {url : Url} {peer : σ}
    (h : Supply s session record supplied (.ok token))
    (hurl : usableUrl (s.operationUrl verb key) (some s!"Bearer {token}") = .ok url)
    (hpeer : s.peer (request verb url token bytes) supplied.peer = (none, peer)) :
    Course s session verb key bytes (record ++ [⟨request verb url token bytes, none⟩])
      { supplied with peer }
      (.error (.unavailable s!"{verb.name} on {key}: {(SendError.closed url).message}"))
  | answered {record : List Exchange} {supplied : Session σ} {token : String} {url : Url}
    {response : Response} {peer : σ} (h : Supply s session record supplied (.ok token))
    (hurl : usableUrl (s.operationUrl verb key) (some s!"Bearer {token}") = .ok url)
    (hpeer : s.peer (request verb url token bytes) supplied.peer = (some response, peer)) :
    Course s session verb key bytes (record ++ [⟨request verb url token bytes, some response⟩])
      { supplied with peer } (bytesOfResponse verb key response)

section

variable (s : Service σ) (session : Session σ)

theorem exists_exchange_recorded (request : Request) (session : Session (σ × List Exchange)) :
    ∃ answer next, s.peer request session.peer.1 = (answer, next) ∧
      s.recorded.exchange request session =
        (match answer with
          | some response => .ok response
          | none => .error (.closed request.url),
          { session with peer := (next, session.peer.2 ++ [⟨request, answer⟩]) }) :=
  ⟨(s.peer request session.peer.1).1, (s.peer request session.peer.1).2, rfl, rfl⟩

/-- Each call comes by its token in one of the ways. -/
theorem supply :
    Supply s session (s.recorded.accessToken session.recording).2.peer.2
      (s.recorded.accessToken session.recording).2.erased
      (s.recorded.accessToken session.recording).1 := by
  cases hcred : s.credentials with
  | fixed token =>
    have hnoted : s.recorded.credentials = .fixed token := hcred
    rw [accessToken_of_fixed s.recorded hnoted]
    exact .fixed hcred
  | metadataServer =>
    have hnoted : s.recorded.credentials = .metadataServer := hcred
    cases hfresh : freshToken? session with
    | some token =>
      have hsame : freshToken? session.recording = some token := hfresh
      rw [accessToken_of_fresh s.recorded hnoted hsame]
      exact .kept hcred hfresh
    | none =>
      have hsame : freshToken? session.recording = none := hfresh
      obtain ⟨answer, next, hpeer, hexchange⟩ :=
        s.exists_exchange_recorded tokenRequest session.recording
      rw [accessToken_of_stale s.recorded hnoted hsame, fetchToken_eq, hexchange]
      cases answer with
      | none => exact .lost hcred hfresh hpeer
      | some response =>
        cases hgrant : tokenOfResponse response with
        | error e =>
          simp only [hgrant]
          exact .refused hcred hfresh hpeer hgrant
        | ok grant =>
          simp only [hgrant]
          exact .granted hcred hfresh hpeer hgrant

/-- The exchanges of a call. -/
def record (verb : Verb) (key : Key.Handle) (bytes : Bytes) : List Exchange :=
  (s.recorded.call verb key bytes session.recording).2.peer.2

/-- Each call takes one of the courses. -/
theorem course (verb : Verb) (key : Key.Handle) (bytes : Bytes) :
    Course s session verb key bytes (s.record session verb key bytes)
      (s.call verb key bytes session).2 (s.call verb key bytes session).1 := by
  have hsupply := s.supply session
  have hagrees : _ = s.call verb key bytes session :=
    s.agrees_call verb key bytes session.recording
  rw [← hagrees, record, call]
  simp only [bind, StateT.bind]
  cases htoken : s.recorded.accessToken session.recording with
  | mk answer supplied =>
    rw [htoken] at hsupply
    cases answer with
    | error e => exact .unsupplied hsupply
    | ok token =>
      have hsame : s.recorded.operationUrl verb key = s.operationUrl verb key := rfl
      dsimp only
      rw [hsame]
      cases hurl : usableUrl (s.operationUrl verb key) (some s!"Bearer {token}") with
      | error e => exact .unsent hsupply hurl
      | ok url =>
        obtain ⟨answer, next, hpeer, hexchange⟩ :=
          s.exists_exchange_recorded (request verb url token bytes) supplied
        simp only [StateT.bind, hexchange]
        cases answer with
        | none => exact .lost hsupply hurl hpeer
        | some response => exact .answered hsupply hurl hpeer

end

/-! ## What courses have in common -/

/-- No request to the key service is one for a token. -/
theorem request_ne_tokenRequest (verb : Verb) (url : Url) (token : String) (bytes : Bytes) :
    request verb url token bytes ≠ tokenRequest := by
  intro h
  have hmethod : "POST" = "GET" := congrArg Request.method h
  exact absurd hmethod (by decide)

section

variable {s : Service σ} {session after : Session σ} {record : List Exchange}
  {answer : Except Error String}

/-- A token is asked for with the one request for it. -/
theorem Supply.request_eq (h : Supply s session record after answer) {x : Exchange}
    (hx : x ∈ record) : x.request = tokenRequest := by
  cases h with
  | fixed h | kept h hfresh => exact absurd hx List.not_mem_nil
  | lost h hstale hpeer | refused h hstale hpeer hgrant | granted h hstale hpeer hgrant =>
    rw [List.mem_singleton.mp hx]

theorem Supply.not_mem (h : Supply s session record after answer) {verb : Verb} {url : Url}
    {token : String} {bytes : Bytes} {response : Option Response} :
    ⟨request verb url token bytes, response⟩ ∉ record :=
  fun hmem => request_ne_tokenRequest verb url token bytes (h.request_eq hmem)

/-- A call comes by a token as the backend does. -/
theorem Supply.accessToken_eq (h : Supply s session record after answer) :
    s.accessToken session = (answer, after) := by
  cases h with
  | fixed h => exact s.accessToken_of_fixed h
  | kept h hfresh => exact s.accessToken_of_fresh h hfresh
  | lost h hstale hpeer =>
    simp only [s.accessToken_of_stale h hstale, fetchToken_eq, exchange, hpeer]
    rfl
  | refused h hstale hpeer hgrant =>
    simp only [s.accessToken_of_stale h hstale, fetchToken_eq, exchange, hpeer, hgrant]
  | granted h hstale hpeer hgrant =>
    simp only [s.accessToken_of_stale h hstale, fetchToken_eq, exchange, hpeer, hgrant]

end

end Service

end PathSeal.Kms.Google
