/-
  WorkloadIdentity.Proofs.Credentials.Journey ──── **A FETCH FROM BEGINNING TO END.**

  A token is fetched in two or three legs: a subject token is retrieved, it is traded for an access
  token, and only for a service account that token is traded once more.  Legs are written down with
  how they ended.  A fetch is a journey: each leg begins where the one before has ended, works
  with what that one brought, and the first failure is the end.

  Main results:
    * `Leg.Leads.received`  — what arrives by a leg
    * `supply_of_run`       — a fetch is one of four journeys
    * `Setup.fetch_keeps_journey` — every fetch of every setup, whatever the world answers
-/
import WorkloadIdentity.Proofs.Credentials.Posts
import WorkloadIdentity.Proofs.Request.Attempt

namespace WorkloadIdentity

/-! ## §1. Legs. -/

/-- A step of a fetch, and how it ended. -/
inductive Leg where
  /-- A subject token is retrieved. -/
  | retrieve (result : Except AuthError String)
  /-- A subject token is traded by a request. -/
  | trade (subjectToken : String) (r : Request) (result : Except AuthError TokenAnswer)
  /-- A token of the service account is asked for by a request, if there can be one that carries
  the access token. -/
  | impersonate (accessToken : String) (r : Option Request) (result : Outcome)

namespace Leg

/-- What a step is for. -/
def errand : Leg → Errand
  | .retrieve _ => .subjectToken
  | .trade _ _ _ => .exchange
  | .impersonate _ _ _ => .impersonation

/-- What a step posts. -/
def posted? : Leg → Option Arrival
  | .retrieve _ => none
  | .trade _ r _ => some ⟨.exchange, r⟩
  | .impersonate _ r _ => r.map (⟨.impersonation, ·⟩)

/-- How the fetch ends with a step, if it does: with the error of the step, or with a token if no
other step is due. -/
def verdict? (k : Config) (now : Int) : Leg → Option Outcome
  | .retrieve (.ok _) => none
  | .retrieve (.error e) | .trade _ _ (.error e) => some (.error e)
  | .trade _ _ (.ok answer) =>
    if k.impersonationUrl.isSome then none else some (.ok (answer.token now))
  | .impersonate _ _ result => some result

/-- A step works with what the step before it has brought. -/
def HandsOn : Leg → Leg → Prop
  | before, .trade subjectToken _ _ => before = .retrieve (.ok subjectToken)
  | before, .impersonate accessToken _ _ =>
    ∃ subjectToken r answer, before = .trade subjectToken r (.ok answer) ∧
      answer.accessToken = accessToken
  | _, .retrieve _ => False

/-- **A step, carried out in a world, ends so and leads to another world.** -/
inductive Leads (k : Config) (o : Options) (w : World) : Leg → World → Prop where
  /-- A subject token is retrieved. -/
  | retrieve {result : Except AuthError String} {next : World}
      (ran : k.source.retrieve.run w = (result, next)) : Leads k o w (.retrieve result) next
  /-- The request of a trade is sent, and its response is judged. -/
  | trade {subjectToken : String} {r : Request} {sent : Except AuthError Response} {next : World}
      (request : k.Trades o subjectToken r) (ran : (Act.send .exchange r).run w = (sent, next)) :
      Leads k o w (.trade subjectToken r (sent.bind TokenAnswer.ofResponse)) next
  /-- The access token is no header value, so there is nothing to send. -/
  | refuse {accessToken : String}
      (illegal : HeaderValue.ofString? ("Bearer " ++ accessToken) = none) :
      Leads k o w (.impersonate accessToken none (.error badHeaderValue)) w
  /-- The request for a token of the service account is sent, and its response is judged. -/
  | impersonate {accessToken : String} {r : Request} {sent : Except AuthError Response}
      {next : World} (request : k.Impersonates o accessToken r)
      (ran : (Act.send .impersonation r).run w = (sent, next)) :
      Leads k o w (.impersonate accessToken (some r) (sent.bind ServiceToken.ofResponse)) next

theorem Leads.traded {k : Config} {o : Options} {w next : World} {subjectToken : String} {r : Request}
    {result : Except AuthError TokenAnswer}
    (h : (Leg.trade subjectToken r result).Leads k o w next) :
    ∃ sent, (Act.send .exchange r).run w = (sent, next) ∧
      result = sent.bind TokenAnswer.ofResponse := by
  -- the result is no constructor, so the step is generalized before the cases
  generalize same : Leg.trade subjectToken r result = l at h
  cases h with
  | retrieve | refuse | impersonate => cases same
  | trade request ran =>
    cases same
    exact ⟨_, ran, rfl⟩

/-- A token of a service account was brought by a request. -/
theorem Leads.impersonated {k : Config} {o : Options} {w next : World} {accessToken : String}
    {r : Option Request} {t : AccessToken}
    (h : (Leg.impersonate accessToken r (.ok t)).Leads k o w next) :
    ∃ response, ServiceToken.ofResponse response = .ok t := by
  generalize same : Leg.impersonate accessToken r (.ok t) = l at h
  cases h with
  | retrieve | trade | refuse => cases same
  | @impersonate _ _ sent _ request ran =>
    obtain ⟨-, -, brought⟩ := Leg.impersonate.inj same
    obtain ⟨response, -, read⟩ := exists_of_bind_ok (x := sent) brought.symm
    exact ⟨response, read⟩

/-- What was retrieved by a step: nothing by one that does not retrieve. -/
def Retrieves (source : SubjectSource) (new : List Arrival) : Leg → Prop
  | .retrieve result => new.map (·.errand) <+: source.plan ∧
      ∀ s, result = .ok s → new.map (·.errand) = source.plan
  | _ => new = []

end Leg

/-- **A journey**: each step begins where the one before has ended. -/
inductive Journey (k : Config) (o : Options) : World → List Leg → World → Prop where
  /-- No steps. -/
  | nil (w : World) : Journey k o w [] w
  /-- A step and those after it. -/
  | cons {w mid last : World} {l : Leg} {rest : List Leg} (step : l.Leads k o w mid)
      (steps : Journey k o mid rest last) : Journey k o w (l :: rest) last

/-- **Where a token comes from**: without a service account from the answer to the trade, and it
lives for the seconds of the answer from now on; with one from the answer of the service account,
and it lives up to the instant that this answer names. -/
def Config.Brings (k : Config) (now : Int) (t : AccessToken) : Prop :=
  ∃ raw, t.response = some raw ∧
    match k.impersonationUrl with
    | none => ∃ answer, TokenAnswer.record.parse raw.body = .ok answer ∧
        t.token = answer.accessToken ∧
        t.expiry = answer.expiresIn.map fun seconds => Millis.add now (Millis.ofSeconds seconds)
    | some _ => ∃ answer time, ServiceToken.record.parse raw.body = .ok answer ∧
        Timestamp.parse answer.expireTime = .ok time ∧
        t.token = answer.accessToken ∧ t.expiry = some time.unixMillis

/-- The steps of a fetch, if nothing fails. -/
def Config.stages (k : Config) : List Errand :=
  .subjectToken :: .exchange :: if k.impersonationUrl.isSome then [.impersonation] else []

/-! ## §2. What arrives. -/

section Arrivals

variable {k : Config} {o : Options} {w next : World}

/-- **What arrives by a step**: what it retrieves, or what it posts if anybody hears it. -/
theorem Leg.Leads.received {l : Leg} (h : l.Leads k o w next) :
    ∃ new, World.Received (new ++ l.posted?.toList.filter (w.network.hears ·.request)) w next ∧
      l.Retrieves k.source new := by
  cases h with
  | retrieve ran =>
    obtain ⟨new, received, beginning, whole⟩ := k.source.retrieve_follows w
    rw [ran] at received whole
    refine ⟨new, ?_, beginning, whole⟩
    show World.Received (new ++ []) w next
    rw [List.append_nil]
    exact received
  | trade request ran => exact ⟨[], sent_received ran, rfl⟩
  | refuse illegal => exact ⟨[], World.received_nil rfl rfl, rfl⟩
  | impersonate request ran => exact ⟨[], sent_received ran, rfl⟩

end Arrivals

/-! ## §3. One fetch. -/

/-- What a fetch comes to, and by which steps. -/
inductive Supply (k : Config) (o : Options) (w : World) : List Leg → Outcome → World → Prop where
  /-- There is no subject token. -/
  | unretrieved {e : AuthError} {next : World}
      (retrieved : (Leg.retrieve (.error e)).Leads k o w next) :
      Supply k o w [.retrieve (.error e)] (.error e) next
  /-- It cannot be traded. -/
  | untraded {s : String} {r : Request} {e : AuthError} {mid next : World}
      (retrieved : (Leg.retrieve (.ok s)).Leads k o w mid)
      (traded : (Leg.trade s r (.error e)).Leads k o mid next) :
      Supply k o w [.retrieve (.ok s), .trade s r (.error e)] (.error e) next
  /-- It is traded, and that is all. -/
  | traded {s : String} {r : Request} {answer : TokenAnswer} {mid next : World}
      (retrieved : (Leg.retrieve (.ok s)).Leads k o w mid)
      (traded : (Leg.trade s r (.ok answer)).Leads k o mid next)
      (direct : k.impersonationUrl.isSome = false) :
      Supply k o w [.retrieve (.ok s), .trade s r (.ok answer)]
        (.ok (answer.token next.clock.now)) next
  /-- A service account is asked with the token. -/
  | impersonated {s : String} {r : Request} {answer : TokenAnswer} {r' : Option Request}
      {outcome : Outcome} {mid mid' next : World}
      (retrieved : (Leg.retrieve (.ok s)).Leads k o w mid)
      (traded : (Leg.trade s r (.ok answer)).Leads k o mid mid')
      (service : k.impersonationUrl.isSome = true)
      (impersonated : (Leg.impersonate answer.accessToken r' outcome).Leads k o mid' next) :
      Supply k o w
        [.retrieve (.ok s), .trade s r (.ok answer), .impersonate answer.accessToken r' outcome]
        outcome next

section Fetch

variable {c : Credentials} {w mid next : World} {s : String} {answer : TokenAnswer}

theorem fetch_unretrieved {e : AuthError} (retrieved : c.source.retrieve.run w = (.error e, next)) :
    c.fetch.run w = (.error e, next) := by
  unfold Credentials.fetch
  exact run_bind_error retrieved

theorem fetch_untraded {e : AuthError} (retrieved : c.source.retrieve.run w = (.ok s, mid))
    (traded : (c.sts.exchange (c.form s) Headers.empty).run mid = (.error e, next)) :
    c.fetch.run w = (.error e, next) := by
  unfold Credentials.fetch
  rw [run_bind_ok retrieved]
  exact run_bind_error traded

theorem fetch_direct (retrieved : c.source.retrieve.run w = (.ok s, mid))
    (traded : (c.sts.exchange (c.form s) Headers.empty).run mid = (.ok answer, next))
    (direct : c.impersonationUrl = none) :
    c.fetch.run w = (.ok (answer.token next.clock.now), next) := by
  unfold Credentials.fetch
  rw [run_bind_ok retrieved, run_bind_ok traded, direct]
  rfl

theorem fetch_service {url : String} (retrieved : c.source.retrieve.run w = (.ok s, mid))
    (traded : (c.sts.exchange (c.form s) Headers.empty).run mid = (.ok answer, next))
    (service : c.impersonationUrl = some url) :
    c.fetch.run w = (Impersonation.generate url answer.accessToken c.scopes).run next := by
  unfold Credentials.fetch
  rw [run_bind_ok retrieved, run_bind_ok traded, service]

end Fetch

section Journeys

variable {k : Config} {o : Options}

/-- Trading a subject token is one step. -/
theorem exists_trade_leg (environment : Option String) (absolute : k.Absolute) (s : String)
    {w next : World} {result : Except AuthError TokenAnswer}
    (ran : ((k.credentials o environment).sts.exchange
      ((k.credentials o environment).form s) Headers.empty).run w = (result, next)) :
    ∃ r, (Leg.trade s r result).Leads k o w next := by
  obtain ⟨r, request, posted⟩ := exists_trade o environment absolute s
  rw [posted] at ran
  cases ran
  exact ⟨r, .trade request rfl⟩

/-- Asking a service account is one step. -/
theorem exists_service_leg (absolute : k.Absolute) {url accessToken : String}
    (service : k.impersonationUrl = some url) {w next : World} {outcome : Outcome}
    (ran : (Impersonation.generate url accessToken (k.granted o)).run w = (outcome, next)) :
    ∃ r, (Leg.impersonate accessToken r outcome).Leads k o w next := by
  rcases bearerValue_cases accessToken with ⟨illegal, refused⟩ | made
  · rw [Impersonation.run_refused url (k.granted o) refused] at ran
    cases ran
    exact ⟨none, .refuse illegal⟩
  · obtain ⟨r, request, posted⟩ := exists_impersonation o absolute service made
    rw [posted] at ran
    cases ran
    exact ⟨some r, .impersonate request rfl⟩

/-- **A fetch is one of four journeys.** -/
theorem supply_of_run {environment : Option String} (absolute : k.Absolute) {w next : World}
    {outcome : Outcome} (ran : (k.credentials o environment).fetch.run w = (outcome, next)) :
    ∃ legs, Supply k o w legs outcome next := by
  -- leg by leg, as far as the one before has brought something
  rcases retrieved : k.source.retrieve.run w with ⟨result, mid⟩
  have first : (Leg.retrieve result).Leads k o w mid := .retrieve retrieved
  cases result with
  | error e =>
    rw [fetch_unretrieved retrieved] at ran
    cases ran
    exact ⟨_, .unretrieved first⟩
  | ok s =>
    rcases traded : ((k.credentials o environment).sts.exchange
      ((k.credentials o environment).form s) Headers.empty).run mid with ⟨result, last⟩
    obtain ⟨r, second⟩ := exists_trade_leg environment absolute s traded
    cases result with
    | error e =>
      rw [fetch_untraded retrieved traded] at ran
      cases ran
      exact ⟨_, .untraded first second⟩
    | ok answer =>
      cases service : k.impersonationUrl with
      | none =>
        rw [fetch_direct retrieved traded service] at ran
        cases ran
        exact ⟨_, .traded first second (by rw [service]; rfl)⟩
      | some url =>
        rw [fetch_service retrieved traded service, credentials_scopes] at ran
        obtain ⟨r', third⟩ := exists_service_leg absolute service ran
        exact ⟨_, .impersonated first second (by rw [service]; rfl) third⟩

end Journeys

/-! ## §4. What every journey keeps. -/

section Keeping

variable {k : Config} {o : Options} {w next : World} {legs : List Leg} {outcome : Outcome}

theorem Supply.journey (h : Supply k o w legs outcome next) : Journey k o w legs next := by
  cases h with
  | unretrieved retrieved => exact .cons retrieved (.nil _)
  | untraded retrieved traded => exact .cons retrieved (.cons traded (.nil _))
  | traded retrieved traded => exact .cons retrieved (.cons traded (.nil _))
  | impersonated retrieved traded _ last =>
    exact .cons retrieved (.cons traded (.cons last (.nil _)))

theorem Supply.stages (h : Supply k o w legs outcome next) :
    legs.map Leg.errand <+: k.stages := by
  cases h with
  | unretrieved => exact ⟨_, rfl⟩
  | untraded => exact ⟨_, rfl⟩
  | traded => exact ⟨_, rfl⟩
  | impersonated _ _ service =>
    unfold Config.stages
    rw [if_pos service]
    exact List.prefix_rfl

theorem Supply.whole {t : AccessToken} (h : Supply k o w legs (.ok t) next) :
    legs.map Leg.errand = k.stages := by
  unfold Config.stages
  cases h with
  | traded _ _ direct =>
    rw [direct]
    rfl
  | impersonated _ _ service =>
    rw [service]
    rfl

theorem Supply.handsOn (h : Supply k o w legs outcome next) : legs.IsChain Leg.HandsOn := by
  cases h <;> simp [Leg.HandsOn]

theorem Supply.goesOn (h : Supply k o w legs outcome next) :
    ∀ l ∈ legs.dropLast, l.verdict? k next.clock.now = none := by
  cases h with
  | unretrieved | untraded | traded => simp [Leg.verdict?]
  | impersonated _ _ service => simp [Leg.verdict?, service]

theorem Supply.verdict (h : Supply k o w legs outcome next) :
    legs.getLast?.bind (Leg.verdict? k next.clock.now) = some outcome := by
  cases h with
  | unretrieved | untraded | impersonated => rfl
  | traded _ _ direct =>
    show (if k.impersonationUrl.isSome then none else _) = _
    rw [direct]
    rfl

theorem Supply.brings {t : AccessToken} (h : Supply k o w legs (.ok t) next) :
    k.Brings next.clock.now t := by
  unfold Config.Brings
  cases h with
  | traded retrieved traded direct =>
    obtain ⟨sent, -, result⟩ := traded.traded
    obtain ⟨response, -, answered⟩ := exists_of_bind_ok result.symm
    obtain ⟨raw, read, -, parsed, rfl⟩ := TokenAnswer.eq_of_response answered
    rw [Option.isSome_eq_false_iff, Option.isNone_iff_eq_none] at direct
    rw [direct]
    exact ⟨raw, rfl, read, parsed, rfl, rfl⟩
  | impersonated _ _ service last =>
    obtain ⟨response, answered⟩ := last.impersonated
    obtain ⟨raw, read, time, -, parsed, timed, rfl⟩ := ServiceToken.eq_of_response answered
    obtain ⟨url, service⟩ := Option.isSome_iff_exists.mp service
    rw [service]
    exact ⟨raw, rfl, read, time, parsed, timed, rfl, rfl⟩

/-- What arrives along steps that do not retrieve: all that they post, if anybody hears it. -/
theorem Journey.received (h : Journey k o w legs next)
    (posts : ∀ l ∈ legs, l.errand ≠ .subjectToken) :
    World.Received ((legs.filterMap Leg.posted?).filter (w.network.hears ·.request)) w next := by
  induction h with
  | nil w => exact World.received_nil rfl rfl
  | @cons w mid last l rest step _ ih =>
    obtain ⟨new, received, retrieves⟩ := step.received
    have later := ih fun l' hl => posts l' (List.mem_cons_of_mem l hl)
    -- such a step has retrieved nothing, and its request meets the same listeners as before
    have silent : new = [] := by
      cases l with
      | retrieve => exact absurd rfl (posts _ List.mem_cons_self)
      | trade | impersonate => exact retrieves
    rw [Network.hears_congr received.listening] at later
    have both := received.trans later
    rw [silent, List.nil_append, ← List.filter_append] at both
    have joined : l.posted?.toList ++ rest.filterMap Leg.posted?
        = (l :: rest).filterMap Leg.posted? := by
      cases hl : l.posted? <;> simp [hl]
    rw [joined] at both
    exact both

/-- **What arrives by a fetch**: what is retrieved first, and then what is posted. -/
theorem Supply.received (h : Supply k o w legs outcome next) :
    ∃ retrieved, World.Received
        (retrieved ++ (legs.filterMap Leg.posted?).filter (w.network.hears ·.request)) w next ∧
      retrieved.map (·.errand) <+: k.source.plan ∧
      ∀ s, .retrieve (.ok s) ∈ legs → retrieved.map (·.errand) = k.source.plan := by
  -- every journey begins with the one step that retrieves
  obtain ⟨result, rest, rfl, posts⟩ : ∃ result rest, legs = .retrieve result :: rest ∧
      ∀ l ∈ rest, l.errand ≠ .subjectToken := by
    cases h with
    | unretrieved | untraded | traded | impersonated => exact ⟨_, _, rfl, by simp [Leg.errand]⟩
  cases h.journey with
  | @cons _ mid _ _ _ step steps =>
    obtain ⟨new, received, beginning, whole⟩ := step.received
    have first : World.Received new w mid := by
      have same : new ++ [] = new := List.append_nil new
      rw [← same]
      exact received
    have later := steps.received posts
    rw [Network.hears_congr first.listening] at later
    refine ⟨new, first.trans later, beginning, ?_⟩
    intro s hs
    rcases List.mem_cons.mp hs with same | inRest
    · cases same
      exact whole s rfl
    · exact absurd rfl (posts _ inRest)

end Keeping

/-! ## §5. Every fetch. -/

/-- **How every fetch goes.** -/
structure KeepsJourney (k : Config) (o : Options) (w : World) (legs : List Leg) (outcome : Outcome)
    (next : World) : Prop where
  /-- Each step is carried out where the one before has ended, and the last one ends it all. -/
  carried : Journey k o w legs next
  /-- The steps come in their order, each once. -/
  inOrder : legs.map Leg.errand <+: k.stages
  /-- A token takes all of them. -/
  complete : ∀ t, outcome = .ok t → legs.map Leg.errand = k.stages
  /-- Each works with what the one before has brought. -/
  handedOn : legs.IsChain Leg.HandsOn
  /-- Nothing is decided before the last: whatever fails, nothing is done after it. -/
  undecided : ∀ l ∈ legs.dropLast, l.verdict? k next.clock.now = none
  /-- The last one decides: its error, or its token. -/
  decided : legs.getLast?.bind (Leg.verdict? k next.clock.now) = some outcome
  /-- It is the token that the last answer brought. -/
  brought : ∀ t, outcome = .ok t → k.Brings next.clock.now t
  /-- What arrives is what the source asks for and then what is posted, if anybody hears it. -/
  arrived : ∃ retrieved, World.Received
      (retrieved ++ (legs.filterMap Leg.posted?).filter (w.network.hears ·.request)) w next ∧
    retrieved.map (·.errand) <+: k.source.plan ∧
    ∀ s, .retrieve (.ok s) ∈ legs → retrieved.map (·.errand) = k.source.plan

theorem Supply.keepsJourney {k : Config} {o : Options} {w next : World} {legs : List Leg}
    {outcome : Outcome} (h : Supply k o w legs outcome next) :
    KeepsJourney k o w legs outcome next := by
  refine ⟨h.journey, h.stages, ?_, h.handsOn, h.goesOn, h.verdict, ?_, h.received⟩
  · rintro t rfl
    exact h.whole
  · rintro t rfl
    exact h.brings

/-- A fetch that brings a token of a service account has gone all the way. -/
theorem KeepsJourney.legs_of_service {k : Config} {o : Options} {w next : World} {legs : List Leg}
    {t : AccessToken} (kept : KeepsJourney k o w legs (.ok t) next)
    (service : k.impersonationUrl.isSome = true) :
    ∃ subjectToken trade answer last, legs = [.retrieve (.ok subjectToken),
      .trade subjectToken trade (.ok answer), .impersonate answer.accessToken last (.ok t)] := by
  have stages := kept.complete t rfl
  have handed := kept.handedOn
  have decided := kept.decided
  unfold Config.stages at stages
  rw [if_pos service] at stages
  obtain ⟨l₁, l₂, l₃, rfl⟩ : ∃ l₁ l₂ l₃, legs = [l₁, l₂, l₃] := by
    refine List.length_eq_three.mp ?_
    rw [← List.length_map (f := Leg.errand), stages]
    rfl
  obtain ⟨second, third⟩ := List.isChain_cons_cons.mp handed
  obtain ⟨third, -⟩ := List.isChain_cons_cons.mp third
  cases l₃ with
  | retrieve => cases third
  | trade => simp [Leg.errand] at stages
  | impersonate accessToken last result =>
    obtain ⟨subjectToken, trade, answer, rfl, rfl⟩ := third
    cases second
    cases decided
    exact ⟨subjectToken, trade, answer, last, rfl⟩

/-- **Every fetch keeps its journey**: whatever credentials were set up from, whatever the
application chose, and whatever servers, files and the application's own source answer. -/
theorem Setup.fetch_keeps_journey {setup : Setup} {o : Options} {environment : Option String}
    {files : FileSystem} {c : Credentials} {records : List LogRecord}
    (built : setup.build o environment files = .ok (c, records)) :
    ∃ k, setup.Declares files k ∧ ∀ w, ∃ legs,
      KeepsJourney k o w legs (c.fetch.run w).1 (c.fetch.run w).2 := by
  obtain ⟨k, declared, absolute, rfl⟩ := Setup.declares_of_build built
  refine ⟨k, declared, fun w => ?_⟩
  have ran : (k.credentials o environment).fetch.run w
      = (((k.credentials o environment).fetch.run w).1,
        ((k.credentials o environment).fetch.run w).2) := rfl
  obtain ⟨legs, supply⟩ := supply_of_run absolute ran
  exact ⟨legs, supply.keepsJourney⟩

namespace Reader

/-- Credentials from a document: subject tokens from a file, a client with an id, and a service
account that is to read. -/
def setup : Setup :=
  .document (.ofFields [("type", .string "external_account"), ("audience", .string "//iam/pool"),
    ("subject_token_type", .string "jwt"), ("token_url", .string "http://sts/token"),
    ("credential_source", .ofFields [("file", .string "/token")]), ("client_id", .string "me"),
    ("service_account_impersonation_url", .string "http://iam/sa:generateAccessToken"),
    ("scopes", .array [.string "read"])])

/-- The credentials. -/
def credentials : Credentials where
  source := .file "/token" .text
  sts := ⟨"http://sts/token", .basic "me" ""⟩
  impersonationUrl := some "http://iam/sa:generateAccessToken"
  audience := "//iam/pool"
  subjectTokenType := "jwt"
  scopes := ["read"]
  quotaProject := none
  policy := RefreshPolicy.standard
  projectNumber := none
  projectsUrl := standardProjectsUrl

/-- A body that names a token of the service account. -/
def granting : List UInt8 :=
  Utf8.encode "\x7b\"accessToken\":\"granted\",\"expireTime\":\"1970-01-01T01:00:00Z\"\x7d"

/-- A body that names a federated token. -/
def federating : List UInt8 := Utf8.encode "\x7b\"access_token\":\"federated\"\x7d"

/-- A world with a subject token in the file, in which both endpoints answer. -/
def world : World where
  network := ⟨true, [.respond 200 .empty federating true, .respond 200 .empty granting true], []⟩
  files := ⟨[], [(["token"], .file (Utf8.encode "subject"))]⟩
  clock := .start
  subjects := []
  log := []

/-- The token of the service account. -/
def granted : AccessToken := ⟨"granted", some 3600000, some ⟨200, .empty, granting⟩⟩

/-- The subject token is the text of the file. -/
theorem retrieved : ((SubjectSource.file "/token" .text).retrieve.run world).1 = .ok "subject" := rfl

/-- Whoever trades gets the federated token. -/
theorem traded {w : World} (untouched : w.network = world.network) {trade : Request}
    {answer : TokenAnswer}
    (brought : ((Act.send .exchange trade).run w).1.bind TokenAnswer.ofResponse = .ok answer) :
    answer.accessToken = "federated" := by
  obtain ⟨response, sent, read⟩ := exists_of_bind_ok brought
  have heard := Act.heard_of_response sent
  rw [untouched, Bool.and_eq_true] at heard
  rw [Act.run_send, untouched] at sent
  simp only [Network.send, heard.1, world, Bool.not_true, Bool.false_eq_true, if_false] at sent
  cases sent
  cases read
  rfl

end Reader

open Reader in
/-- The document is accepted, so every fetch of its credentials keeps its journey.  In a world that
answers, the text of the file is traded for a federated token, and that one for the token of the
service account. -/
theorem Setup.fetch_keeps_journey_of_reader :
    setup.build .standard none ⟨[], []⟩ = .ok (credentials, [.debug
        "creating external account credentials"
        [("audience", "//iam/pool"), ("impersonation", "true")]]) ∧
      ∃ k, setup.Declares ⟨[], []⟩ k ∧
        (∀ w, ∃ legs, KeepsJourney k .standard w legs (credentials.fetch.run w).1
          (credentials.fetch.run w).2) ∧
        ∃ trade answer last, KeepsJourney k .standard world
          [.retrieve (.ok "subject"), .trade "subject" trade (.ok answer),
            .impersonate "federated" last (.ok granted)]
          (.ok granted) (credentials.fetch.run world).2 := by
  have built : setup.build .standard none ⟨[], []⟩ = .ok (credentials, [.debug
      "creating external account credentials"
      [("audience", "//iam/pool"), ("impersonation", "true")]]) := rfl
  obtain ⟨k, declared, keeps⟩ := Setup.fetch_keeps_journey built
  refine ⟨built, k, declared, keeps, ?_⟩
  have ran : (credentials.fetch.run world).1 = .ok granted := rfl
  obtain ⟨service, source⟩ : k.impersonationUrl.isSome = true ∧ k.source = .file "/token" .text := by
    cases declared with
    | document read terms =>
      cases read
      obtain ⟨_, given, made⟩ := terms.source
      cases given
      exact ⟨by rw [terms.impersonationUrl]; rfl, (Except.ok.inj made).symm⟩
  obtain ⟨legs, kept⟩ := keeps world
  rw [ran] at kept
  obtain ⟨subjectToken, trade, answer, last, rfl⟩ := kept.legs_of_service service
  -- the file and the first reply tell which tokens are handed on
  have carried := kept.carried
  cases carried with
  | cons first rest =>
    cases first with
    | retrieve ran =>
      rw [source] at ran
      have subject := retrieved
      rw [ran] at subject
      cases subject
      cases rest with
      | cons second _ =>
        obtain ⟨sent, ran', brought⟩ := second.traded
        have untouched := congrArg World.network (congrArg Prod.snd ran)
        have federated : answer.accessToken = "federated" :=
          traded untouched.symm (by rw [ran']; exact brought.symm)
        rw [federated] at kept
        exact ⟨trade, answer, last, kept⟩

end WorkloadIdentity
