/-
  WorkloadIdentity.Credentials.Session ──── **CREDENTIALS AT WORK.**

  A session is what changes while credentials are used: the world, the cached token and the id of
  the project once it is known.

  **RULE**: fetching a token is one retrieval of a subject token, one exchange for an access token
  and, only for a service account, one more exchange; the first failure ends it.  A request is sent
  at most twice, the second time only after a refusal and a fresh token.

  ✓ `Credentials.fetch`     — a token from outside
  ✓ `Credentials.obtain`, `Credentials.headers`, `Credentials.projectId`
  ✓ `Credentials.request`   — a request with a token
-/
import WorkloadIdentity.Credentials.Setup
import WorkloadIdentity.Impersonation
import WorkloadIdentity.Token.Callers

namespace WorkloadIdentity

/-! ## §1. Fetching a token. -/

/-- The form of the exchange.  A service account needs the platform scope on the way and gets the
scopes itself. -/
def Credentials.form (c : Credentials) (subjectToken : String) : ExchangeForm where
  audience := c.audience
  scope := if c.impersonationUrl.isSome then [platformScope] else c.scopes
  subjectToken := subjectToken
  subjectTokenType := c.subjectTokenType
  resource := none
  actingParty := none
  options := none

/-- The token of an answer that came at an instant. -/
def TokenAnswer.token (a : TokenAnswer) (now : Int) : AccessToken where
  token := a.accessToken
  expiry := a.expiresIn.map fun seconds => Millis.add now (Millis.ofSeconds seconds)
  response := a.response

/-- **Fetch a token.** -/
def Credentials.fetch (c : Credentials) : Act AccessToken := do
  let subjectToken ← c.source.retrieve
  let answer ← c.sts.exchange (c.form subjectToken) Headers.empty
  match c.impersonationUrl with
  | some url => Impersonation.generate url answer.accessToken c.scopes
  | none => return answer.token (← Act.now)

/-- The world as a place from which tokens are fetched. -/
def Credentials.host (c : Credentials) : TokenHost World where
  now w := w.clock.now
  note := World.note
  fetch w := c.fetch.run w

/-! ## §2. Sessions. -/

/-- What changes while credentials are used. -/
structure Session where
  /-- The world outside. -/
  world : World
  /-- The cached token. -/
  cache : TokenCache
  /-- The id of the project, once it is known. -/
  projectId : Option String

/-- An action in a session that may fail. -/
abbrev Use (α : Type) := ExceptT AuthError (StateM Session) α

/-- An action on the world, in a session. -/
def Use.outside {α : Type} (act : Act α) : Use α := do
  let s ← getThe Session
  let (result, world) := act.run s.world
  set { s with world := world }
  match result with
  | .ok x => return x
  | .error e => throw e

/-- A session that has not been used. -/
def Credentials.session (c : Credentials) (w : World) : Session :=
  ⟨w, TokenCache.empty c.policy.threshold, none⟩

namespace Credentials

/-! ## §3. Tokens and headers. -/

/-- A token from the cache, or a fetched one. -/
def obtain (c : Credentials) (d : Demand) : Use AccessToken := do
  let s ← getThe Session
  let (outcome, cache, world) := TokenCache.obtain c.host d s.cache s.world
  set { s with cache := cache, world := world }
  match outcome with
  | .ok t => return t
  | .error e => throw e

/-- **The access token.** -/
def accessToken (c : Credentials) : Use AccessToken := c.obtain .current

/-- The headers that are made of a token. -/
def sign (c : Credentials) (t : AccessToken) : Except AuthError Headers :=
  bearerHeaders t.token c.quotaProject

/-- **The headers of an authenticated request.** -/
def headers (c : Credentials) : Use Headers := do
  let t ← c.accessToken
  match c.sign t with
  | .ok h => return h
  | .error e => throw e

/-- Put a token in place. -/
def install (t : AccessToken) (s : Session) : Session := { s with cache := s.cache.install t }

/-- The tokens of several callers who come together. -/
def serve (c : Credentials) (callers : Nat) (s : Session) : List Outcome × Session :=
  let (outcomes, cache, world) :=
    Callers.serve c.host (List.replicate callers .current) s.cache s.world
  (outcomes, { s with cache := cache, world := world })

/-! ## §4. The project. -/

/-- **The id of the project**: asked for until it is known once, and never if the audience has no
number. -/
def projectId (c : Credentials) : Use (Option String) := do
  match c.projectNumber with
  | none => return none
  | some number =>
    match (← getThe Session).projectId with
    | some known => return some known
    | none =>
      let h ← c.headers
      let found ← Use.outside (Project.lookup c.projectsUrl number h)
      modifyThe Session fun s => { s with projectId := some found }
      return some found

/-! ## §5. Requests. -/

/-- A request with headers added; what the caller has set stays. -/
def addHeaders (r : Request) (h : Headers) : Request :=
  { r with headers := h.toList.foldl (fun acc p => acc.insertNew p.1 p.2) r.headers }

/-- Send a request with a token. -/
def sendWithToken (c : Credentials) (r : Request) : Use Response := do
  let h ← c.headers
  Use.outside (Act.send .target (addHeaders r h))

/-- The record of a refusal that leads to a second sending. -/
def refusalRecord (status : Status) : LogRecord :=
  ⟨.info, "authentication failure, refreshing the access token and retrying once",
    [("status", status.describe)]⟩

/-- A successful response, or the error of any other. -/
def successful (r : Response) : Except AuthError Response :=
  if r.raw.status.isSuccess then .ok r else .error (.ofResponse Errand.target.doing r)

/-- **Send a request with a token**; after a refusal once more with a fresh one, if the policy says
so and the request can be sent twice. -/
def request (c : Credentials) (r : Request) : Use Response := do
  let response ← c.sendWithToken r
  let replay := if c.policy.retryRefused then r.replay? else none
  match replay with
  | some again =>
    if response.raw.status.isAuthFailure then
      Use.outside (Act.note (refusalRecord response.raw.status))
      let _ ← c.obtain .fresh
      match successful (← c.sendWithToken again) with
      | .ok second => return second
      | .error e => throw e
    else
      match successful response with
      | .ok first => return first
      | .error e => throw e
  | none =>
    match successful response with
    | .ok first => return first
    | .error e => throw e

end Credentials

end WorkloadIdentity
