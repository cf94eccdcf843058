/-
  WorkloadIdentity.Proofs.Credentials.Queries ──── **THE QUESTIONS BEHIND A CALL.**

  What an application calls credentials for may need several questions to be asked over the network,
  one after another: for the subject token, for its trade, for a token of the service account, for
  the id of the project, and what the application itself asks.  A question that fails ends the call.

  Main results:
    * `Credentials.Puts`   — which questions a call asks, and in which session each of them is asked
    * `Credentials.Puts.fails` — whatever goes wrong with a question, the caller is told, and the
      caches stay as they were when it was asked
-/
import WorkloadIdentity.Proofs.Credentials.Journey
import WorkloadIdentity.Proofs.Credentials.Retrievals
import WorkloadIdentity.Proofs.Request.Retry

namespace WorkloadIdentity

open Credentials (addHeaders)

/-! ## §1. Questions. -/

/-- A question that credentials ask over the network. -/
inductive Query where
  /-- For the subject token behind a URL. -/
  | subjectToken (address : String) (headers : Headers) (format : SourceFormat)
  /-- For an access token in trade for a subject token. -/
  | exchange (subjectToken : String)
  /-- For a token of the service account behind a URL. -/
  | impersonation (url accessToken : String)
  /-- For the id of a project, with a token. -/
  | projectId (number : String) (t : AccessToken)
  /-- What the application asks, with a token. -/
  | target (r : Request) (t : AccessToken)

namespace Query

/-- The errand that it is. -/
def errand : Query → Errand
  | .subjectToken .. => .subjectToken
  | .exchange _ => .exchange
  | .impersonation .. => .impersonation
  | .projectId .. => .projectId
  | .target .. => .target

/-- The headers that a question needs, or why they cannot be made. -/
def headers (c : Credentials) : Query → Except AuthError Headers
  | .subjectToken _ h _ => .ok h
  | .exchange _ => c.sts.headers Headers.empty
  | .impersonation _ token => Impersonation.headers token
  | .projectId _ t | .target _ t => bearerHeaders t.token c.quotaProject

/-- The address of a question, unless its text is none. -/
def address (c : Credentials) : Query → Option Url
  | .subjectToken address _ _ => (Url.parse address).toOption
  | .exchange _ => (Url.parse c.sts.url).toOption
  | .impersonation url _ => (Url.parse url).toOption
  | .projectId number _ => (Url.parse (c.projectsUrl ++ number)).toOption
  | .target r _ => some r.url

/-- The question has an address that HTTP can use. -/
def Addressed (c : Credentials) (q : Query) : Prop := ∃ u, q.address c = some u ∧ u.isHttp = true

/-- The lookup of a project, headers included. -/
def lookup (c : Credentials) (number : String) (t : AccessToken) : Act String := do
  let h ← Act.lift (bearerHeaders t.token c.quotaProject)
  Project.lookup c.projectsUrl number h

/-- The sending of a request, headers included. -/
def sending (c : Credentials) (r : Request) (t : AccessToken) : Act Response := do
  let h ← Act.lift (bearerHeaders t.token c.quotaProject)
  Act.send .target (addHeaders r h)

/-- **A question fails** in a world, with an error, and leaves another world behind. -/
def Fails (c : Credentials) (w : World) (e : AuthError) (last : World) : Query → Prop
  | .subjectToken address headers format =>
    (SubjectSource.url address headers format).retrieve.run w = (.error e, last)
  | .exchange s => (c.sts.exchange (c.form s) Headers.empty).run w = (.error e, last)
  | .impersonation url token => (Impersonation.generate url token c.scopes).run w = (.error e, last)
  | .projectId number t => (lookup c number t).run w = (.error e, last)
  | .target r t => (sending c r t).run w = (.error e, last)

end Query

/-! ## §2. Who asks them. -/

namespace Credentials

/-- A question that is asked on the way to a token, and the world in which it is asked. -/
inductive Fetches (c : Credentials) (w : World) : Query → World → Prop where
  /-- The subject token lies behind a URL. -/
  | subjectToken {address : String} {headers : Headers} {format : SourceFormat}
      (source : c.source = .url address headers format) :
      Fetches c w (.subjectToken address headers format) w
  /-- There is a subject token to be traded. -/
  | exchange {s : String} {mid : World} (retrieved : c.source.retrieve.run w = (.ok s, mid)) :
      Fetches c w (.exchange s) mid
  /-- There is a token to be traded for that of a service account. -/
  | impersonation {s url : String} {mid next : World} {answer : TokenAnswer}
      (retrieved : c.source.retrieve.run w = (.ok s, mid))
      (traded : (c.sts.exchange (c.form s) Headers.empty).run mid = (.ok answer, next))
      (service : c.impersonationUrl = some url) :
      Fetches c w (.impersonation url answer.accessToken) next

/-- A question that is asked for a token in a session, and the session as it is then. -/
inductive Obtains (c : Credentials) (s : Session) (d : Demand) : Query → Session → Prop where
  /-- A token is fetched if none at hand will do. -/
  | fetch {q : Query} {w : World}
      (stale : d = .current → s.cache.usable? s.world.clock.now = none)
      (fetches : c.Fetches (s.world.note TokenCache.fetchRecord) q w) :
      Obtains c s d q { s with world := w }

/-- A question that is asked for sending a request with a token. -/
inductive Attempts (c : Credentials) (s : Session) (r : Request) : Query → Session → Prop where
  /-- A token is needed. -/
  | token {q : Query} {here : Session} (token : c.Obtains s .current q here) :
      Attempts c s r q here
  /-- With the token the request is sent. -/
  | target {here : Session} {t : AccessToken} (token : (c.obtain .current).run s = (.ok t, here)) :
      Attempts c s r (.target r t) here

/-- **A question that a call asks**, and the session in which it is asked. -/
inductive Puts (c : Credentials) (s : Session) : Call → Query → Session → Prop where
  /-- For a token. -/
  | token {d : Demand} {q : Query} {here : Session} (token : c.Obtains s d q here) :
      Puts c s (.token d) q here
  /-- For headers a token is needed. -/
  | headers {q : Query} {here : Session} (token : c.Obtains s .current q here) :
      Puts c s .headers q here
  /-- For a project that is not known yet a token is needed. -/
  | project {q : Query} {here : Session} {number : String}
      (numbered : c.projectNumber = some number) (unknown : s.projectId = none)
      (token : c.Obtains s .current q here) : Puts c s .projectId q here
  /-- With the token its id is asked for. -/
  | lookup {here : Session} {number : String} {t : AccessToken}
      (numbered : c.projectNumber = some number) (unknown : s.projectId = none)
      (token : (c.obtain .current).run s = (.ok t, here)) :
      Puts c s .projectId (.projectId number t) here
  /-- A request is sent. -/
  | request {q : Query} {here : Session} {r : Request} (attempts : c.Attempts s r q here) :
      Puts c s (.request r) q here
  /-- After a refusal a fresh token is needed. -/
  | renewal {q : Query} {mid here : Session} {r : Request} {response : Response}
      (first : (c.sendWithToken r).run s = (.ok response, mid)) (again : c.Retries r response)
      (token : c.Obtains (mid.noted response.raw.status) .fresh q here) :
      Puts c s (.request r) q here
  /-- With it the request is sent once more. -/
  | repeated {q : Query} {mid ready here : Session} {r : Request} {response : Response}
      {t : AccessToken} (first : (c.sendWithToken r).run s = (.ok response, mid))
      (again : c.Retries r response)
      (token : (c.obtain .fresh).run (mid.noted response.raw.status) = (.ok t, ready))
      (attempts : c.Attempts ready r q here) : Puts c s (.request r) q here

/-- The error in an answer. -/
def Answer.error? : Answer → Option AuthError
  | .token (.error e) | .headers (.error e) | .projectId (.error e) | .response (.error e) => some e
  | _ => none

/-! ## §3. What the caller is told. -/

variable {c : Credentials} {w : World} {e : AuthError}

/-- A question on the way to a token that fails ends the way. -/
theorem Fetches.fails {q : Query} {here last : World} (h : c.Fetches w q here)
    (failed : q.Fails c here e last) : c.fetch.run w = (.error e, last) := by
  cases h with
  | subjectToken source =>
    refine fetch_unretrieved ?_
    rw [source]
    exact failed
  | exchange retrieved => exact fetch_untraded retrieved failed
  | impersonation retrieved traded service =>
    rw [fetch_service retrieved traded service]
    exact failed

/-- A fetch that fails leaves both caches as they were. -/
theorem Obtains.run {d : Demand} {s here : Session} {q : Query} {last : World}
    (h : c.Obtains s d q here) (failed : q.Fails c here.world e last) :
    ∃ world, (c.obtain d).run s = (.error e, { here with world := world }) := by
  obtain ⟨stale, fetches⟩ := h
  have ran := c.run_obtain_fetch stale
  rw [fetches.fails failed] at ran
  exact ⟨_, ran⟩

theorem run_lookup_failed {s here : Session} {number : String} {t : AccessToken} {last : World}
    (numbered : c.projectNumber = some number) (unknown : s.projectId = none)
    (token : (c.obtain .current).run s = (.ok t, here))
    (failed : (Query.lookup c number t).run here.world = (.error e, last)) :
    ∃ world, c.projectId.run s = (.error e, { here with world := world }) := by
  have looked : (getThe Session : Use Session).run s = (.ok s, s) := rfl
  unfold Query.lookup at failed
  rw [projectId_of_number numbered, run_bind_ok looked, unknown]
  unfold projectIdBy
  -- headers that cannot be made end the call before anything is sent
  cases made : bearerHeaders t.token c.quotaProject with
  | error e' =>
    rw [made] at failed
    cases failed
    exact ⟨here.world, run_bind_error (run_headers_ok token made)⟩
  | ok h =>
    rw [made, run_bind_ok (Act.run_lift (.ok h) here.world)] at failed
    rw [run_bind_ok (run_headers_ok token made)]
    have outside : (Use.outside (Project.lookup c.projectsUrl number h)).run here
        = (.error e, { here with world := last }) := by
      rw [run_outside, failed]
    exact ⟨last, run_bind_error outside⟩

theorem Attempts.run {s here : Session} {r : Request} {q : Query} {last : World}
    (h : c.Attempts s r q here) (failed : q.Fails c here.world e last) :
    ∃ world, (c.sendWithToken r).run s = (.error e, { here with world := world }) := by
  cases h with
  | token token =>
    obtain ⟨world, ran⟩ := token.run failed
    exact ⟨world, run_sendWithToken_error (run_headers_error ran)⟩
  | @target _ t token =>
    have failed : (Query.sending c r t).run here.world = (.error e, last) := failed
    unfold Query.sending at failed
    cases made : bearerHeaders t.token c.quotaProject with
    | error e' =>
      rw [made] at failed
      cases failed
      exact ⟨here.world, run_sendWithToken_error (run_headers_ok token made)⟩
    | ok h =>
      rw [made, run_bind_ok (Act.run_lift (.ok h) here.world)] at failed
      refine ⟨last, ?_⟩
      rw [run_sendWithToken_ok (run_headers_ok token made), run_outside, failed]

/-- A call is run, and ends with an error in some session. -/
def FailsIn (c : Credentials) (s : Session) (e : AuthError) (after : Session) : Call → Prop
  | .token d => (c.obtain d).run s = (.error e, after)
  | .headers => c.headers.run s = (.error e, after)
  | .projectId => c.projectId.run s = (.error e, after)
  | .request r => (c.request r).run s = (.error e, after)
  | _ => False

/-- The question of a call fails, and so does the call. -/
theorem Puts.run {s here : Session} {call : Call} {q : Query} {last : World}
    (h : c.Puts s call q here) (failed : q.Fails c here.world e last) :
    ∃ world, c.FailsIn s e { here with world := world } call := by
  -- by the place at which the question is asked: nothing that would come after it is done
  cases h with
  | token token => exact token.run failed
  | headers token =>
    obtain ⟨world, ran⟩ := token.run failed
    exact ⟨world, run_headers_error ran⟩
  | @project _ _ number numbered unknown token =>
    obtain ⟨world, ran⟩ := token.run failed
    have looked : (getThe Session : Use Session).run s = (.ok s, s) := rfl
    refine ⟨world, ?_⟩
    show c.projectId.run s = _
    rw [projectId_of_number numbered, run_bind_ok looked, unknown]
    exact run_bind_error (run_headers_error ran)
  | lookup numbered unknown token => exact run_lookup_failed numbered unknown token failed
  | request attempts =>
    obtain ⟨world, ran⟩ := attempts.run failed
    exact ⟨world, run_request_error ran⟩
  | @renewal _ _ _ r _ first again token =>
    obtain ⟨world, ran⟩ := token.run failed
    refine ⟨world, ?_⟩
    show (c.request r).run s = _
    rw [run_request_again first again]
    exact run_bind_error ran
  | @repeated _ _ _ _ r _ _ first again token attempts =>
    obtain ⟨world, ran⟩ := attempts.run failed
    refine ⟨world, ?_⟩
    show (c.request r).run s = _
    rw [run_request_twice first again token ran]
    rfl

/-- **A call ends with an error**, and leaves the caches as they were in some session. -/
structure EndsWith (c : Credentials) (s : Session) (call : Call) (e : AuthError) (here : Session) :
    Prop where
  /-- What the caller is told. -/
  told : (c.answer call s).error? = some e
  /-- The cached token. -/
  cache : (c.take call.action s).cache = here.cache
  /-- The id of the project. -/
  projectId : (c.take call.action s).projectId = here.projectId

/-- **Whatever goes wrong with a question, the caller is told**, and the caches stay as they were
when it was asked. -/
theorem Puts.fails {s here : Session} {call : Call} {q : Query} {last : World}
    (h : c.Puts s call q here) (failed : q.Fails c here.world e last) :
    c.EndsWith s call e here := by
  obtain ⟨world, ran⟩ := h.run failed
  -- the answer and both caches are read off the end of the run
  cases call with
  | token d =>
    have ran : (c.obtain d).run s = (.error e, { here with world := world }) := ran
    exact ⟨by rw [answer, ran]; rfl, congrArg (·.2.cache) ran, congrArg (·.2.projectId) ran⟩
  | headers =>
    have ran : c.headers.run s = (.error e, { here with world := world }) := ran
    exact ⟨by rw [answer, ran]; rfl, congrArg (·.2.cache) ran, congrArg (·.2.projectId) ran⟩
  | projectId =>
    have ran : c.projectId.run s = (.error e, { here with world := world }) := ran
    exact ⟨by rw [answer, ran]; rfl, congrArg (·.2.cache) ran, congrArg (·.2.projectId) ran⟩
  | request r =>
    have ran : (c.request r).run s = (.error e, { here with world := world }) := ran
    exact ⟨by rw [answer, ran]; rfl, congrArg (·.2.cache) ran, congrArg (·.2.projectId) ran⟩
  | _ => exact ran.elim

end Credentials

end WorkloadIdentity
