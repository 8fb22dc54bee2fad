import Mathlib.Data.List.Induction
import PathSeal.Proofs.Json.Record
import PathSeal.Proofs.Kms.Google.Course

/-!
# PathSeal.Proofs.Kms.Google.Tokens

When a backend asks the metadata server for a token, and which token it sends, over all
runs of calls at any times (`Service.fetches_punctual`). A token is asked for exactly if
none was fetched before, or the one that was fetched last may not be used any more. The
one that was fetched last is always the one that is sent.

The cache carries this: after each call it is what the last fetch has put there
(`Episode.Punctual.kept`), so the history of the fetches can be read off it.
-/

namespace PathSeal.Kms.Google

open Service (request tokenOfResponse freshToken?)

variable {σ : Type}

/-! ## Fetches -/

/-- A token that was fetched, and when. -/
structure Fetch where
  time : Nat
  token : String
  lifetime : UInt64
deriving DecidableEq

/-- The time in nanoseconds from which it is not used any more: a minute before it expires. -/
def Fetch.refreshAt (f : Fetch) : Nat :=
  f.time + (f.lifetime.toNat - 60) * 1000000000

/-- What is kept of it. -/
def Fetch.cached (f : Fetch) : CachedToken :=
  ⟨f.token, f.refreshAt⟩

/-- A successful answer with an object that holds a token and its lifetime. -/
def Response.Grants (r : Response) (token : String) (lifetime : UInt64) : Prop :=
  r.Succeeds ∧ ∃ entries, Json.WritesObject entries r.body ∧
    Json.Holds [("access_token", .text), ("expires_in", .count "u64")] (token, lifetime, ()) entries

/-- The token and its lifetime that an exchange with the metadata server brought. -/
def Exchange.grant? (x : Exchange) : Option (String × UInt64) :=
  if x.request = tokenRequest then x.answer.bind fun response => (tokenOfResponse response).toOption
  else none

/-- What was fetched in some exchanges at some time. -/
def fetchIn (time : Nat) (record : List Exchange) : Option Fetch :=
  (record.findSome? Exchange.grant?).map fun grant => ⟨time, grant.1, grant.2⟩

/-! ## Runs -/

/-- Something to be done by a key service. -/
inductive Job where
  | wrap (key : Key.Handle) (dek : Bytes)
  | unwrap (key : Key.Handle) (wrapped : Key.Wrapped)

/-- The fault of a result. -/
def fault? {α : Type} (result : Except Error α) : Option Error :=
  match result with
  | .ok _ => none
  | .error e => some e

/-- Has a service do a job; this gives the fault, if it fails. -/
def Job.run {κ : Type} (job : Job) (wrapper : Wrapper κ) : StateM (World κ) (Option Error) := do
  match job with
  | wrap key dek => return fault? (← wrapper.wrap key dek).value
  | unwrap key wrapped => return fault? (← wrapper.unwrap key wrapped).value

/-- A job that was done: when, how it failed if it did, the exchanges for it, and the token that was
kept after it. -/
structure Episode where
  time : Nat
  fault : Option Error
  record : List Exchange
  kept : Option CachedToken

/-- The surroundings at some time, with a record that begins. -/
def recordingAt (time : Nat) (w : World (Session σ)) : World (Session (σ × List Exchange)) :=
  { w with kms := Session.recording { w.kms with now := time } }

/-- The episodes of jobs that are done one after the other at some times. -/
def Service.episodes (s : Service σ) : World (Session σ) → List (Nat × Job) → List Episode
  | _, [] => []
  | w, (time, job) :: jobs =>
    let done := job.run s.recorded.wrapper (recordingAt time w)
    ⟨time, done.1, done.2.kms.peer.2, done.2.kms.token⟩ ::
      s.episodes { done.2 with kms := done.2.kms.erased } jobs

namespace Episode

variable (e : Episode)

/-- The metadata server was asked. -/
def Asks : Prop :=
  ∃ x ∈ e.record, x.request = tokenRequest

instance : Decidable e.Asks :=
  inferInstanceAs (Decidable (∃ x ∈ e.record, x.request = tokenRequest))

/-- The token that was fetched. -/
def fetch? : Option Fetch :=
  fetchIn e.time e.record

/-- An episode after some last fetch keeps to the rules. -/
structure Punctual (last : Option Fetch) : Prop where
  /-- The metadata server is asked exactly if there is no token that may still be used. -/
  asks_iff : e.Asks ↔ ∀ fetch ∈ last, fetch.refreshAt ≤ e.time
  /-- It is asked once at most. -/
  once : (e.record.filter fun x => x.request = tokenRequest).length ≤ 1
  /-- An answer that holds a token brings it. -/
  granted : ∀ x ∈ e.record, x.request = tokenRequest → ∀ response ∈ x.answer,
    ∀ token lifetime, response.Grants token lifetime → e.fetch? = some ⟨e.time, token, lifetime⟩
  /-- The key service is sent the token that was fetched last. -/
  bearer : ∀ x ∈ e.record, x.request ≠ tokenRequest →
    ∃ fetch ∈ e.fetch?.or last, x.request.authorization = some s!"Bearer {fetch.token}"
  /-- If no token can be fetched, the job fails, and the key service is not asked. -/
  failed : e.Asks → e.fetch? = none →
    e.fault.isSome ∧ ∀ x ∈ e.record, x.request = tokenRequest
  /-- The token that was fetched last is kept. -/
  kept : e.kept = (e.fetch?.or last).map Fetch.cached

end Episode

/-- The last fetch of some episodes. -/
def lastFetch? (episodes : List Episode) : Option Fetch :=
  (episodes.filterMap Episode.fetch?).getLast?

/-! ## One call -/

section

variable {s : Service σ} {session after : Session σ} {record : List Exchange} {last : Option Fetch}

/-- A call has the exchanges for its token first, and then at most requests that send the token. -/
theorem Service.Course.exists_supply {verb : Verb} {key : Key.Handle} {bytes : Bytes}
    {answer : Except Error Bytes} (h : s.Course session verb key bytes record after answer) :
    ∃ given sent supplied token, s.Supply session given supplied token ∧ record = given ++ sent ∧
      after.token = supplied.token ∧
      (∀ x ∈ sent, ∃ url value, token = .ok value ∧ x.request = request verb url value bytes) ∧
      ∀ e, token = .error e → answer = .error e := by
  cases h with
  | unsupplied h =>
    refine ⟨record, [], after, _, h, (List.append_nil record).symm, rfl, by simp, ?_⟩
    intro e he
    rw [Except.error.inj he]
  | unsent h hurl =>
    exact ⟨record, [], after, _, h, (List.append_nil record).symm, rfl, by simp, by simp⟩
  | lost h hurl hpeer =>
    refine ⟨_, _, _, _, h, rfl, rfl, ?_, by simp⟩
    intro x hx
    exact ⟨_, _, rfl, congrArg Exchange.request (List.mem_singleton.mp hx)⟩
  | answered h hurl hpeer =>
    refine ⟨_, _, _, _, h, rfl, rfl, ?_, by simp⟩
    intro x hx
    exact ⟨_, _, rfl, congrArg Exchange.request (List.mem_singleton.mp hx)⟩

/-- A token is at hand if the one that was fetched last may still be used. -/
theorem freshToken?_eq_some_iff (hkept : session.token = last.map Fetch.cached) (token : String) :
    freshToken? session = some token ↔
      ∃ fetch ∈ last, session.now < fetch.refreshAt ∧ fetch.token = token := by
  rw [freshToken?, hkept]
  cases last with
  | none => simp
  | some fetch => simp [Fetch.cached]

theorem freshToken?_eq_none_iff (hkept : session.token = last.map Fetch.cached) :
    freshToken? session = none ↔ ∀ fetch ∈ last, fetch.refreshAt ≤ session.now := by
  rw [freshToken?, hkept]
  cases last with
  | none => simp
  | some fetch => simp [Fetch.cached]

theorem tokenOfResponse_of_grants {response : Response} {token : String} {lifetime : UInt64}
    (h : response.Grants token lifetime) : tokenOfResponse response = .ok (token, lifetime) := by
  obtain ⟨hsuccess, entries, hobject, hholds⟩ := h
  have hread : tokenSchema.read response.body = .ok (token, lifetime, ()) :=
    Json.Schema.read_of_holds hobject hholds
  simp [tokenOfResponse, response.isSuccess_iff.mpr hsuccess, hread]

variable {answer : Except Error String}

/-- What such an answer holds is what was fetched. -/
theorem Service.Supply.fetchIn_of_grants (h : s.Supply session record after answer) {x : Exchange}
    (hx : x ∈ record) {response : Response} (hresponse : response ∈ x.answer) {token : String}
    {lifetime : UInt64} (hgrants : response.Grants token lifetime) :
    fetchIn session.now record = some ⟨session.now, token, lifetime⟩ := by
  have hgiven := tokenOfResponse_of_grants hgrants
  cases h with
  | fixed h | kept h hfresh => contradiction
  | lost h hstale hpeer =>
    rw [List.mem_singleton.mp hx] at hresponse
    contradiction
  | refused h hstale hpeer hgrant =>
    rw [List.mem_singleton.mp hx] at hresponse
    cases hresponse
    rw [hgiven] at hgrant
    contradiction
  | granted h hstale hpeer hgrant =>
    rw [List.mem_singleton.mp hx] at hresponse
    cases hresponse
    simp [fetchIn, Exchange.grant?, hgiven, Except.toOption]

/-- A token is asked for if there is none that may still be used. -/
theorem Service.Supply.asks_iff (h : s.Supply session record after answer)
    (hcred : s.credentials = .metadataServer) (hkept : session.token = last.map Fetch.cached) :
    record ≠ [] ↔ ∀ fetch ∈ last, fetch.refreshAt ≤ session.now := by
  rw [← freshToken?_eq_none_iff hkept]
  cases h with
  | fixed h =>
    rw [hcred] at h
    contradiction
  | kept h hfresh => simp [hfresh]
  | lost h hstale hpeer | refused h hstale hpeer hgrant | granted h hstale hpeer hgrant =>
    simp [hstale]

/-- What is kept is what was fetched last. -/
theorem Service.Supply.kept_eq (h : s.Supply session record after answer)
    (hkept : session.token = last.map Fetch.cached) :
    after.token = ((fetchIn session.now record).or last).map Fetch.cached := by
  cases h with
  | fixed h | kept h hfresh => simpa [fetchIn] using hkept
  | lost h hstale hpeer => simpa [fetchIn, Exchange.grant?] using hkept
  | refused h hstale hpeer hgrant =>
    simpa [fetchIn, Exchange.grant?, hgrant, Except.toOption] using hkept
  | granted h hstale hpeer hgrant =>
    simp [fetchIn, Exchange.grant?, hgrant, Except.toOption, Fetch.cached, Fetch.refreshAt,
      usableNanos, expiryMargin]

/-- So is the token that is given. -/
theorem Service.Supply.exists_fetch {token : String}
    (h : s.Supply session record after (.ok token)) (hcred : s.credentials = .metadataServer)
    (hkept : session.token = last.map Fetch.cached) :
    ∃ fetch ∈ (fetchIn session.now record).or last, fetch.token = token := by
  cases h with
  | fixed h =>
    rw [hcred] at h
    contradiction
  | kept h hfresh =>
    obtain ⟨fetch, hfetch, -, htoken⟩ := (freshToken?_eq_some_iff hkept token).mp hfresh
    exact ⟨fetch, by simpa [fetchIn] using hfetch, htoken⟩
  | granted h hstale hpeer hgrant =>
    simp [fetchIn, Exchange.grant?, hgrant, Except.toOption]

/-- There is none if nothing could be fetched. -/
theorem Service.Supply.exists_error (h : s.Supply session record after answer)
    (hasks : record ≠ []) (hnone : fetchIn session.now record = none) : ∃ e, answer = .error e := by
  cases h with
  | fixed h | kept h hfresh => contradiction
  | lost h hstale hpeer | refused h hstale hpeer hgrant => exact ⟨_, rfl⟩
  | granted h hstale hpeer hgrant =>
    simp [fetchIn, Exchange.grant?, hgrant, Except.toOption] at hnone

/-- The metadata server is asked once at most. -/
theorem Service.Supply.length_le (h : s.Supply session record after answer) :
    record.length ≤ 1 := by
  cases h with
  | fixed h | kept h hfresh => exact Nat.zero_le 1
  | lost h hstale hpeer | refused h hstale hpeer hgrant | granted h hstale hpeer hgrant =>
    exact Nat.le_refl 1

section

variable {given sent : List Exchange}

/-- Other requests bring no tokens. -/
theorem fetchIn_append (hsent : ∀ x ∈ sent, x.request ≠ tokenRequest) (time : Nat) :
    fetchIn time (given ++ sent) = fetchIn time given := by
  have hnone : sent.findSome? Exchange.grant? = none := by
    rw [List.findSome?_eq_none_iff]
    intro x hx
    rw [Exchange.grant?, if_neg (hsent x hx)]
  rw [fetchIn, List.findSome?_append, hnone, Option.or_none, ← fetchIn]

theorem exists_tokenRequest_iff (hgiven : ∀ x ∈ given, x.request = tokenRequest)
    (hsent : ∀ x ∈ sent, x.request ≠ tokenRequest) :
    (∃ x ∈ given ++ sent, x.request = tokenRequest) ↔ given ≠ [] := by
  constructor
  · rintro ⟨x, hx, hrequest⟩ rfl
    exact hsent x hx hrequest
  · intro hne
    obtain ⟨x, hx⟩ := List.exists_mem_of_ne_nil given hne
    exact ⟨x, List.mem_append_left sent hx, hgiven x hx⟩

theorem filter_tokenRequest (hgiven : ∀ x ∈ given, x.request = tokenRequest)
    (hsent : ∀ x ∈ sent, x.request ≠ tokenRequest) :
    (given ++ sent).filter (fun x => x.request = tokenRequest) = given := by
  have hall : given.filter (fun x => x.request = tokenRequest) = given := by
    simpa [List.filter_eq_self] using hgiven
  have hnone : sent.filter (fun x => x.request = tokenRequest) = [] := by
    simpa [List.filter_eq_nil_iff] using hsent
  rw [List.filter_append, hall, hnone, List.append_nil]

end

/-- The episode of a call keeps to the rules. -/
theorem Service.Course.punctual {verb : Verb} {key : Key.Handle} {bytes : Bytes}
    {answer : Except Error Bytes} {fault : Option Error}
    (h : s.Course session verb key bytes record after answer)
    (hcred : s.credentials = .metadataServer) (hkept : session.token = last.map Fetch.cached)
    (hfault : ∀ e, answer = .error e → fault.isSome) :
    (Episode.mk session.now fault record after.token).Punctual last := by
  obtain ⟨given, sent, supplied, token, hsupply, rfl, htoken, hsent, herror⟩ := h.exists_supply
  have hgiven : ∀ x ∈ given, x.request = tokenRequest := fun x hx => hsupply.request_eq hx
  have hothers : ∀ x ∈ sent, x.request ≠ tokenRequest := by
    intro x hx
    obtain ⟨url, value, -, hrequest⟩ := hsent x hx
    rw [hrequest]
    exact Service.request_ne_tokenRequest verb url value bytes
  have hfetch : fetchIn session.now (given ++ sent) = fetchIn session.now given :=
    fetchIn_append hothers session.now
  have hasks := exists_tokenRequest_iff hgiven hothers
  refine ⟨?_, ?_, ?_, ?_, ?_, ?_⟩
  · exact hasks.trans (hsupply.asks_iff hcred hkept)
  · rw [filter_tokenRequest hgiven hothers]
    exact hsupply.length_le
  · intro x hx hrequest response hresponse token lifetime hgrants
    rw [Episode.fetch?, hfetch]
    rcases List.mem_append.mp hx with hx | hx
    · exact hsupply.fetchIn_of_grants hx hresponse hgrants
    · exact absurd hrequest (hothers x hx)
  · intro x hx hne
    rcases List.mem_append.mp hx with hx | hx
    · exact absurd (hgiven x hx) hne
    · obtain ⟨url, value, rfl, hrequest⟩ := hsent x hx
      obtain ⟨fetch, hmem, rfl⟩ := hsupply.exists_fetch hcred hkept
      refine ⟨fetch, ?_, ?_⟩
      · rw [Episode.fetch?, hfetch]
        exact hmem
      · rw [hrequest]
        rfl
  · intro hasked hnone
    rw [Episode.fetch?, hfetch] at hnone
    obtain ⟨e, rfl⟩ := hsupply.exists_error (hasks.mp hasked) hnone
    refine ⟨hfault e (herror e rfl), ?_⟩
    intro x hx
    rcases List.mem_append.mp hx with hx | hx
    · exact hgiven x hx
    · obtain ⟨url, value, htoken, -⟩ := hsent x hx
      contradiction
  · rw [Episode.fetch?, hfetch]
    exact htoken.trans (hsupply.kept_eq hkept)

end

/-! ## All calls of a run -/

section

variable (s : Service σ)

/-- A job is one call, and it fails if the call does. -/
theorem Job.exists_call (job : Job) (w : World (Session (σ × List Exchange))) :
    ∃ verb key bytes fault, job.run s.recorded.wrapper w =
        (fault, { w with kms := (s.recorded.call verb key bytes w.kms).2 }) ∧
      ∀ e, (s.recorded.call verb key bytes w.kms).1 = .error e → fault.isSome := by
  cases job with
  | wrap key dek =>
    refine ⟨.encrypt, key, dek, _, rfl, ?_⟩
    intro e he
    show (fault? ((s.recorded.call .encrypt key dek w.kms).1.bind wrappedOfResponse)).isSome
    rw [he]
    rfl
  | unwrap key wrapped =>
    refine ⟨.decrypt, key, wrapped.bytes, _, rfl, ?_⟩
    intro e he
    show (fault? (s.recorded.call .decrypt key wrapped.bytes w.kms).1).isSome
    rw [he]
    rfl

/-- A run begins with an episode that keeps to the rules, and goes on with what it has kept. -/
theorem Service.exists_episode (hcred : s.credentials = .metadataServer) {w : World (Session σ)}
    {last : Option Fetch} (hkept : w.kms.token = last.map Fetch.cached) (time : Nat) (job : Job)
    (jobs : List (Nat × Job)) :
    ∃ (e : Episode) (w' : World (Session σ)),
      s.episodes w ((time, job) :: jobs) = e :: s.episodes w' jobs ∧ e.time = time ∧
        e.Punctual last ∧ w'.kms.token = e.kept := by
  obtain ⟨verb, key, bytes, fault, hjob, hfault⟩ := job.exists_call s (recordingAt time w)
  have hagrees : _ = s.call verb key bytes { w.kms with now := time } :=
    s.agrees_call verb key bytes (Session.recording { w.kms with now := time })
  have hcourse := s.course { w.kms with now := time } verb key bytes
  rw [← hagrees] at hcourse
  rw [episodes, hjob]
  exact ⟨_, _, rfl, rfl, hcourse.punctual hcred hkept hfault, rfl⟩

/-- The last fetch of some episodes is that of the last one that has any. -/
theorem lastFetch?_cons (e : Episode) (episodes : List Episode) :
    lastFetch? (e :: episodes) = (lastFetch? episodes).or e.fetch? := by
  rw [lastFetch?, lastFetch?]
  cases hfetch : e.fetch? with
  | none => rw [List.filterMap_cons_none hfetch, Option.or_none]
  | some fetch =>
    rw [List.filterMap_cons_some hfetch, List.getLast?_cons]
    cases (episodes.filterMap Episode.fetch?).getLast? <;> rfl

/-- Every episode of a run keeps to the rules, given what was fetched before the run. -/
theorem Service.punctual_of_episodes (hcred : s.credentials = .metadataServer)
    {w : World (Session σ)} {jobs : List (Nat × Job)} {last : Option Fetch}
    (hkept : w.kms.token = last.map Fetch.cached) {before after : List Episode} {e : Episode}
    (hrun : s.episodes w jobs = before ++ e :: after) :
    e.Punctual ((lastFetch? before).or last) := by
  induction jobs generalizing w last before with
  | nil => simp [episodes] at hrun
  | cons job jobs ih =>
    obtain ⟨first, w', hfirst, -, hpunctual, hnext⟩ := s.exists_episode hcred hkept job.1 job.2 jobs
    have hboth := hfirst.symm.trans hrun
    cases before with
    | nil =>
      obtain ⟨rfl, -⟩ := List.cons.inj hboth
      exact hpunctual
    | cons _ before =>
      obtain ⟨rfl, hothers⟩ := List.cons.inj hboth
      rw [lastFetch?_cons, Option.or_assoc]
      exact ih (hnext.trans hpunctual.kept) hothers

end

/-! ## Calls at one time -/

section

variable {before middle : List Episode} {e : Episode} {fetch : Fetch}

/-- The last fetch of some episodes is the last one that has any, from the end. -/
theorem lastFetch?_append (episodes : List Episode) :
    lastFetch? (before ++ episodes) = (lastFetch? episodes).or (lastFetch? before) := by
  rw [lastFetch?, List.filterMap_append, List.getLast?_append]
  rfl

theorem Episode.fetch?_eq_none (h : ¬e.Asks) : e.fetch? = none := by
  have hnone : e.record.findSome? Exchange.grant? = none := by
    rw [List.findSome?_eq_none_iff]
    intro x hx
    rw [Exchange.grant?, if_neg fun hrequest => h ⟨x, hx, hrequest⟩]
  rw [Episode.fetch?, fetchIn, hnone]
  rfl

theorem Episode.time_of_fetch? (h : e.fetch? = some fetch) : fetch.time = e.time := by
  obtain ⟨grant, -, rfl⟩ := Option.map_eq_some_iff.mp h
  rfl

/-- At the time of the last fetch the metadata server is asked exactly if the token was valid for a
minute at most. -/
theorem Episode.Punctual.asks_iff_of_time (h : e.Punctual (some fetch))
    (htime : e.time = fetch.time) : e.Asks ↔ fetch.lifetime.toNat ≤ 60 := by
  rw [h.asks_iff, htime]
  simp only [Option.mem_def, Option.some.injEq, forall_eq', Fetch.refreshAt]
  omega

/-- A fetch stays the last one if the metadata server is not asked again. -/
theorem lastFetch?_of_not_asks (hfetch : e.fetch? = some fetch) (h : ∀ x ∈ middle, ¬x.Asks) :
    lastFetch? (before ++ e :: middle) = some fetch := by
  have hnone : lastFetch? middle = none := by
    have hempty : middle.filterMap Episode.fetch? = [] := by
      rw [List.filterMap_eq_nil_iff]
      exact fun x hx => Episode.fetch?_eq_none (h x hx)
    rw [lastFetch?, hempty]
    rfl
  rw [lastFetch?_append, lastFetch?_cons, hnone, hfetch]
  rfl

/-- A token that is valid for more than a minute is not asked for again while no time passes. The
induction goes along the run: as long as no episode asks, the fetch is the last one. -/
theorem not_asks_of_lifetime {episodes rest : List Episode}
    (hrules : ∀ before x after, episodes = before ++ x :: after → x.Punctual (lastFetch? before))
    (hepisodes : episodes = before ++ e :: (middle ++ rest)) (hfetch : e.fetch? = some fetch)
    (hlong : 60 < fetch.lifetime.toNat) (htimes : ∀ x ∈ middle, x.time = e.time) :
    ∀ x ∈ middle, ¬x.Asks := by
  induction middle using List.reverseRecOn generalizing rest with
  | nil => simp
  | append_singleton middle later ih =>
    rw [List.forall_mem_append] at htimes
    rw [List.append_assoc, List.singleton_append] at hepisodes
    have hmiddle := ih hepisodes htimes.1
    have htime : later.time = fetch.time :=
      (htimes.2 later List.mem_cons_self).trans (Episode.time_of_fetch? hfetch).symm
    have hlater : ¬later.Asks := by
      have hlast := hrules (before ++ e :: middle) later rest (by simp [hepisodes])
      rw [lastFetch?_of_not_asks hfetch hmiddle] at hlast
      rw [hlast.asks_iff_of_time htime]
      omega
    rw [List.forall_mem_append]
    exact ⟨hmiddle, by simpa using hlater⟩

end

namespace Service

variable (s : Service σ)

/-- In every run of calls, each episode keeps to the rules. While no time passes after a fetch, a
token that is valid for more than a minute is not fetched again, and any other one is fetched again
by the next call. -/
theorem fetches_punctual (hcred : s.credentials = .metadataServer) (w : World (Session σ))
    (hnone : w.kms.token = none) (jobs : List (Nat × Job)) (before after : List Episode)
    (e : Episode) (hrun : s.episodes w jobs = before ++ e :: after) :
    e.Punctual (lastFetch? before) ∧
      ((∀ later ∈ after, later.time = e.time) → ∀ fetch ∈ e.fetch?,
        (60 < fetch.lifetime.toNat → ∀ later ∈ after, ¬later.Asks) ∧
          (fetch.lifetime.toNat ≤ 60 → ∀ next ∈ after.head?, next.Asks)) := by
  have hkept : w.kms.token = (none : Option Fetch).map Fetch.cached := hnone
  have hpunctual {before' after' : List Episode} {x : Episode}
      (h : s.episodes w jobs = before' ++ x :: after') : x.Punctual (lastFetch? before') := by
    have hrules := s.punctual_of_episodes hcred hkept h
    rwa [Option.or_none] at hrules
  refine ⟨hpunctual hrun, fun htimes fetch hfetch => ⟨?_, ?_⟩⟩
  · intro hlong
    have hend : s.episodes w jobs = before ++ e :: (after ++ []) := by rw [hrun, List.append_nil]
    exact not_asks_of_lifetime (fun _ _ _ => hpunctual) hend hfetch hlong htimes
  · intro hshort next hnext
    obtain ⟨rest, rfl⟩ := List.head?_eq_some_iff.mp hnext
    have htime := (htimes next List.mem_cons_self).trans (Episode.time_of_fetch? hfetch).symm
    have hrest : s.episodes w jobs = before ++ [e] ++ next :: rest := by simp [hrun]
    have hrules := hpunctual hrest
    rw [lastFetch?_of_not_asks hfetch (by simp)] at hrules
    exact (hrules.asks_iff_of_time htime).mpr hshort

/-- A backend whose tokens are valid for an hour; its key service does not work. -/
def hourly : Service Unit where
  endpoint := "http://[::1]:8080"
  credentials := .metadataServer
  peer request := pure (some (
    if request = tokenRequest then ⟨200, "\x7b\"access_token\":\"t\",\"expires_in\":3600\x7d"⟩
    else ⟨503, ""⟩))

/-- Its token is fetched by the first call, kept for 59 minutes, and then fetched again. -/
theorem fetches_punctual_hourly :
    let w : World (Session Unit) := ⟨⟨fun _ => 0, 0⟩, ⟨0, none, ()⟩⟩
    let job := Job.wrap ⟨.gcp, "k"⟩ [1, 2, 3]
    ∃ first second third : Episode,
      hourly.episodes w [(0, job), (3539999999999, job), (3540000000000, job)] =
        [first, second, third] ∧
      first.Punctual (lastFetch? []) ∧ second.Punctual (lastFetch? [first]) ∧
      third.Punctual (lastFetch? [first, second]) ∧
      first.fetch? = some ⟨0, "t", 3600⟩ ∧ ¬second.Asks ∧
      third.fetch? = some ⟨3540000000000, "t", 3600⟩ := by
  intro w job
  have hrules := fetches_punctual hourly rfl w rfl
    [(0, job), (3539999999999, job), (3540000000000, job)]
  refine ⟨_, _, _, rfl, (hrules [] _ _ rfl).1, (hrules [_] _ _ rfl).1, (hrules [_, _] _ _ rfl).1,
    ?_, ?_, ?_⟩
  · decide +kernel
  · decide +kernel
  · decide +kernel

end Service

end PathSeal.Kms.Google
