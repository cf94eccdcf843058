/-
  WorkloadIdentity.Proofs.Error.Unanswered ──── **QUESTIONS THAT NOBODY ANSWERS.**

  A question stays without an answer for one of three reasons: its headers cannot be made, its
  address cannot be used, or nobody answers what has been sent.  The error tells the first from the
  others, but it calls the other two transient alike, although a question whose address cannot be
  used will never be answered.

  Whether a response has been received shows in the script of the network: each response that is
  received is one less that is to come.

  Main results:
    * `Act.Asks`           — what an action does that sends one request and then works on the answer
    * `Query.unanswered`   — the three reasons, for every question
    * `Setup.unanswered_iff` — when the error of an unanswered question tells whether the connection
      has failed
-/
import WorkloadIdentity.Proofs.Credentials.Queries

namespace WorkloadIdentity

open Credentials (addHeaders)

/-! ## §1. Responses that are to come. -/

/-- Whether a reply is a response. -/
def Reply.isResponse : Reply → Bool
  | .respond _ _ _ _ => true
  | .drop => false

/-- How many responses are to come. -/
def World.replies (w : World) : Nat := w.network.script.countP Reply.isResponse

/-- The next request gets no response: nobody listens, or the connection drops. -/
def Network.Silent (n : Network) : Prop :=
  n.listening = false ∨ ∀ reply, n.script.head? = some reply → reply.isResponse = false

/-- An action never adds to the responses that are to come. -/
def Act.Quiet {α : Type} (act : Act α) : Prop := ∀ k, RunKeeps (fun w => w.replies ≤ k) act

namespace Act

variable {α β : Type} {errand : Errand}

theorem quiet_pure (a : α) : Quiet (pure a : Act α) := fun _ => RunKeeps.pure a

theorem quiet_throw (e : AuthError) : Quiet (throw e : Act α) := fun _ => RunKeeps.throw e

theorem quiet_note (r : LogRecord) : Quiet (note r) := fun _ _ kept => kept

theorem quiet_lift (r : Except AuthError α) : Quiet (lift r) := fun _ => World.Stable.lift r

theorem Quiet.bind {x : Act α} {f : α → Act β} (first : Quiet x) (next : ∀ a, Quiet (f a)) :
    Quiet (x >>= f) := fun k => RunKeeps.bind (first k) fun a => next a k

/-! ## §2. One request, and then its answer. -/

/-- Why a request gets no response, and with what error. -/
inductive Unheard (errand : Errand) (address : Option Url) (w : World) :
    AuthError → World → Prop where
  /-- There is no address, or none that HTTP can use: nothing happens. -/
  | unusable (other : ∀ u, address = some u → u.isHttp = false) :
      Unheard errand address w (.ofClient errand.doing (.builder address)) w
  /-- It is sent, and nobody answers. -/
  | silent {u : Url} {last : World} (addressed : address = some u) (http : u.isHttp = true)
      (silent : w.network.Silent) :
      Unheard errand address w (.ofClient errand.doing (.sending u)) last

/-- **An action asks**: it sends one request to an address, and whatever it does after that needs
the response. -/
structure Asks (errand : Errand) (address : Option Url) (act : Act α) : Prop where
  /-- With a result one response less is to come. -/
  takes : ∀ {w a next}, act.run w = (.ok a, next) → next.replies < w.replies
  /-- So it is with an error, unless the request got no response. -/
  fails : ∀ {w e last}, act.run w = (.error e, last) →
    last.replies < w.replies ∨ Unheard errand address w e last

theorem Asks.bind {address : Option Url} {x : Act α} {f : α → Act β} (first : Asks errand address x)
    (quiet : ∀ a, Quiet (f a)) : Asks errand address (x >>= f) := by
  have later {w mid : World} {a : α} (ran : x.run w = (.ok a, mid)) :
      ((f a).run mid).2.replies < w.replies :=
    Nat.lt_of_le_of_lt (quiet a _ mid (le_refl _)) (first.takes ran)
  constructor
  · intro w b next ran
    rcases hx : x.run w with ⟨result, mid⟩
    cases result with
    | error e =>
      rw [run_bind_error hx] at ran
      cases ran
    | ok a =>
      have below := later hx
      rw [run_bind_ok hx] at ran
      rwa [ran] at below
  · intro w e last ran
    rcases hx : x.run w with ⟨result, mid⟩
    cases result with
    | error e' =>
      rw [run_bind_error hx] at ran
      cases ran
      exact first.fails hx
    | ok a =>
      have below := later hx
      rw [run_bind_ok hx] at ran
      rw [ran] at below
      exact .inl below

/-- **Sending has two ends**: there is no response, or one less is to come. -/
theorem send_cases (errand : Errand) (r : Request) (w : World) :
    (∃ e last, (send errand r).run w = (.error e, last) ∧ Unheard errand (some r.url) w e last) ∨
      ∃ response last, (send errand r).run w = (.ok response, last) ∧
        last.replies < w.replies := by
  rw [run_send_told]
  by_cases http : r.url.isHttp = true
  · by_cases listening : w.network.listening = true
    · rw [Network.send_heard http listening]
      cases script : w.network.script with
      | nil =>
        refine .inl ⟨_, _, rfl, .silent rfl http (.inr fun reply first => ?_)⟩
        rw [script] at first
        cases first
      | cons reply rest =>
        cases reply with
        | drop =>
          refine .inl ⟨_, _, rfl, .silent rfl http (.inr fun reply first => ?_)⟩
          rw [script] at first
          cases first
          rfl
        | respond status headers body complete =>
          refine .inr ⟨_, _, rfl, ?_⟩
          show rest.countP Reply.isResponse < w.network.script.countP Reply.isResponse
          rw [script, List.countP_cons_of_pos rfl]
          exact Nat.lt_succ_self _
    · have deaf : w.network.listening = false := Bool.eq_false_iff.mpr listening
      rw [Network.send_unheard http deaf]
      exact .inl ⟨_, _, rfl, .silent rfl http (.inl deaf)⟩
  · have other : r.url.isHttp = false := Bool.eq_false_iff.mpr http
    rw [Network.send_unusable other]
    refine .inl ⟨_, _, rfl, .unusable fun u same => ?_⟩
    cases same
    exact other

theorem asks_send (errand : Errand) (r : Request) : Asks errand (some r.url) (send errand r) := by
  constructor
  · intro w a next ran
    rcases send_cases errand r w with ⟨e, last, failed, -⟩ | ⟨response, last, answered, below⟩
    · rw [failed] at ran
      cases ran
    · rw [answered] at ran
      cases ran
      exact below
  · intro w e last ran
    rcases send_cases errand r w with ⟨e', last', failed, why⟩ | ⟨response, last', answered, -⟩
    · rw [failed] at ran
      cases ran
      exact .inr why
    · rw [answered] at ran
      cases ran

variable {method url : String} {headers : Headers} {body : Body}

theorem asks_exchange :
    Asks errand (Url.parse url).toOption (exchange errand method url headers body) := by
  unfold exchange prepare
  cases Url.parse url with
  | error e =>
    constructor
    · intro w a next ran
      cases ran
    · intro w e last ran
      cases ran
      exact .inr (.unusable nofun)
  | ok u =>
    refine (asks_send errand ⟨method, u, headers, body⟩).bind fun response => ?_
    cases response.read with
    | error e => exact quiet_throw _
    | ok raw => exact quiet_pure raw

theorem asks_call : Asks errand (Url.parse url).toOption (call errand method url headers body) := by
  refine asks_exchange.bind fun raw => ?_
  split
  · exact quiet_pure raw
  · exact quiet_throw _

end Act

/-! ## §3. Questions. -/

namespace Query

variable {c : Credentials} {q : Query} {w last : World} {e : AuthError}

/-- **Why a question has no answer**, and with what error. -/
inductive Unanswered (c : Credentials) (q : Query) (w : World) : AuthError → World → Prop where
  /-- Its headers cannot be made, and nothing happens. -/
  | unsigned (refused : q.headers c = .error badHeaderValue) : Unanswered c q w badHeaderValue w
  /-- Its address cannot be used, or nobody answers. -/
  | unheard {h : Headers} {e : AuthError} {last : World} (made : q.headers c = .ok h)
      (unheard : Act.Unheard q.errand (q.address c) w e last) : Unanswered c q w e last

theorem bearerHeaders_cases (token : String) (quota : Option String) :
    bearerHeaders token quota = .error badHeaderValue ∨ ∃ h, bearerHeaders token quota = .ok h := by
  by_cases legal : Signable token quota
  · exact .inr ⟨_, bearerHeaders_of_legal legal⟩
  · exact .inl (bearerHeaders_of_illegal legal)

/-- Headers can be made, or they are refused in one way. -/
theorem headers_cases (c : Credentials) (q : Query) :
    q.headers c = .error badHeaderValue ∨ ∃ h, q.headers c = .ok h := by
  cases q with
  | subjectToken _ h _ => exact .inr ⟨h, rfl⟩
  | exchange _ => exact .inr ⟨_, ClientAuthentication.headers_eq _ _⟩
  | impersonation _ token =>
    show (do .ok ((← bearerHeaders token none).insertNew _ _)) = _ ∨
      ∃ h, (do .ok ((← bearerHeaders token none).insertNew _ _)) = Except.ok h
    rcases bearerHeaders_cases token none with refused | ⟨h, made⟩
    · rw [refused]
      exact .inl rfl
    · rw [made]
      exact .inr ⟨_, rfl⟩
  | projectId _ t | target _ t => exact bearerHeaders_cases t.token c.quotaProject

/-- An action that begins with headers, and asks if they can be made. -/
theorem unanswered_of_asks {α : Type} {f : Headers → Act α}
    (asks : ∀ h, Act.Asks q.errand (q.address c) (f h))
    (failed : (Act.lift (q.headers c) >>= f).run w = (.error e, last))
    (unanswered : last.replies = w.replies) : q.Unanswered c w e last := by
  rcases q.headers_cases c with refused | ⟨h, made⟩
  · rw [refused] at failed
    cases failed
    exact .unsigned refused
  · rw [made, run_bind_ok (Act.run_lift (.ok h) w)] at failed
    rcases (asks h).fails failed with below | unheard
    · exact absurd unanswered (Nat.ne_of_lt below)
    · exact .unheard made unheard

/-- **A question that fails without a response**, for whichever of the reasons. -/
theorem unanswered (failed : q.Fails c w e last) (unanswered : last.replies = w.replies) :
    q.Unanswered c w e last := by
  cases q with
  | subjectToken address h format =>
    refine unanswered_of_asks (f := fun h => SubjectSource.retrieve (.url address h format))
      (fun h => ?_) failed unanswered
    -- what comes of the answer is noted and looked into
    have reads : Act.Asks .subjectToken (Url.parse address).toOption
        (SubjectSource.readUrl address h) := by
      refine Act.asks_exchange.bind fun raw => ?_
      dsimp only
      split
      · exact (Act.quiet_throw _).bind fun _ => (Act.quiet_note _).bind fun _ => Act.quiet_pure _
      · exact (Act.quiet_note _).bind fun _ => Act.quiet_pure _
    exact reads.bind fun content => Act.quiet_lift _
  | exchange s =>
    refine unanswered_of_asks (fun h => ?_) failed unanswered
    exact Act.asks_call.bind fun raw => (Act.quiet_lift _).bind fun answer => Act.quiet_pure _
  | impersonation url token =>
    refine unanswered_of_asks (fun h => ?_) failed unanswered
    exact Act.asks_call.bind fun raw => (Act.quiet_lift _).bind fun answer => Act.quiet_lift _
  | projectId number t =>
    refine unanswered_of_asks (fun h => ?_) failed unanswered
    exact Act.asks_call.bind fun raw => (Act.quiet_lift _).bind fun id =>
      (Act.quiet_note _).bind fun _ => Act.quiet_pure _
  | target r t =>
    exact unanswered_of_asks (fun h => Act.asks_send .target (addHeaders r h)) failed unanswered

/-- Credentials can ask the question. -/
def Of (c : Credentials) : Query → Prop
  | .subjectToken address h format => c.source = .url address h format
  | .impersonation url _ => c.impersonationUrl = some url
  | .projectId number _ => c.projectNumber = some number
  | .exchange _ | .target _ _ => True

/-- The question is sent, and the connection fails. -/
def Lost (c : Credentials) (w : World) (q : Query) : Prop :=
  (∃ h, q.headers c = .ok h) ∧ q.Addressed c ∧ w.network.Silent

theorem addressed_of_toOption {text : String} (h : ∃ u, Url.parse text = .ok u) :
    ∃ u, (Url.parse text).toOption = some u := by
  obtain ⟨u, parsed⟩ := h
  exact ⟨u, by rw [parsed]; rfl⟩

end Query

/-! ## §4. What a setup makes sure of. -/

/-- The URL of a source has been looked at. -/
theorem SourceDocument.absolute {d : SourceDocument} {address : String} {headers : Headers}
    {format : SourceFormat} (h : d.source = .ok (.url address headers format)) :
    ∃ u, Url.parse address = .ok u := by
  unfold SourceDocument.source at h
  obtain ⟨format', -, h⟩ := exists_of_bind_ok h
  split at h
  · cases h
  · obtain ⟨_, checked, h⟩ := exists_of_bind_ok h
    obtain ⟨made, -, h⟩ := exists_of_bind_ok h
    cases h
    exact exists_of_checkUrl checked
  · cases h
  · cases h

theorem Setup.Declares.absolute {setup : Setup} {files : FileSystem} {k : Config} {address : String}
    {headers : Headers} {format : SourceFormat} (h : setup.Declares files k)
    (source : k.source = .url address headers format) : ∃ u, Url.parse address = .ok u := by
  cases h with
  | document _ declared | file _ declared =>
    obtain ⟨d, -, made⟩ := declared.source
    exact SourceDocument.absolute (made.trans (congrArg Except.ok source))
  | declaration declared =>
    rw [declared.source] at source
    cases source

/-- **Every question has an address**, if it is not for the id of a project: where that is asked for
nobody has looked at. -/
theorem Setup.addressed {setup : Setup} {o : Options} {environment : Option String}
    {files : FileSystem} {c : Credentials} {records : List LogRecord}
    (accepted : setup.build o environment files = .ok (c, records)) {q : Query} (asked : q.Of c)
    (other : ∀ number t, q ≠ .projectId number t) : ∃ u, q.address c = some u := by
  obtain ⟨k, declares, absolute, rfl⟩ := declares_of_build accepted
  cases q with
  | subjectToken address h format =>
    exact Query.addressed_of_toOption (declares.absolute asked)
  | exchange s => exact Query.addressed_of_toOption absolute.tokenUrl
  | impersonation url token =>
    exact Query.addressed_of_toOption (absolute.impersonationUrl url asked)
  | projectId number t => exact absurd rfl (other number t)
  | target r t => exact ⟨r.url, rfl⟩

/-! ## §5. What the error tells. -/

section Told

variable {c : Credentials} {q : Query} {w last : World} {e : AuthError}

/-- Without a response there is no status, and nothing that was received. -/
theorem Query.Unanswered.status? (h : q.Unanswered c w e last) :
    e.status? = none ∧ e.response = none := by
  cases h with
  | unsigned => exact ⟨rfl, rfl⟩
  | unheard _ unheard => cases unheard <;> exact ⟨rfl, rfl⟩

/-- **The error is transient unless the headers cannot be made**, whatever the address is. -/
theorem Query.Unanswered.transient_iff (h : q.Unanswered c w e last) :
    e.transient = true ↔ ∃ h, q.headers c = .ok h := by
  cases h with
  | unsigned refused =>
    rw [refused]
    constructor
    · intro impossible
      cases impossible
    · rintro ⟨h, impossible⟩
      cases impossible
  | unheard made unheard =>
    rw [made]
    cases unheard <;> exact ⟨fun _ => ⟨_, rfl⟩, fun _ => rfl⟩

/-- Nothing happens if the address cannot be used; if it can be, only silence is left. -/
theorem Query.Unanswered.addressed_cases (h : q.Unanswered c w e last) :
    (q.Addressed c → (∃ h, q.headers c = .ok h) → w.network.Silent) ∧
      (¬ q.Addressed c → last = w) := by
  cases h with
  | unsigned refused =>
    refine ⟨?_, fun _ => rfl⟩
    rintro - ⟨h, made⟩
    rw [refused] at made
    cases made
  | unheard made unheard =>
    cases unheard with
    | unusable other =>
      refine ⟨?_, fun _ => rfl⟩
      rintro ⟨u, addressed, http⟩ -
      rw [other u addressed] at http
      cases http
    | silent addressed http silent =>
      exact ⟨fun _ _ => silent, fun nowhere => absurd ⟨_, addressed, http⟩ nowhere⟩

end Told

/-- **When the error of an unanswered question tells whether the connection has failed.**  Whatever
credentials have been accepted: a question of theirs that fails without a response has no status,
and whoever made the call is told of it.  It is transient exactly if the connection failed, unless
it had headers but no address that HTTP can use; then it has not been sent, nothing has happened,
and it is transient all the same.  All but the place where the ids of projects are asked for have
been looked at when the credentials were set up, but for being URLs only. -/
theorem Setup.unanswered_iff {setup : Setup} {o : Options} {environment : Option String}
    {files : FileSystem} {c : Credentials} {records : List LogRecord}
    (accepted : setup.build o environment files = .ok (c, records)) {q : Query} {w last : World}
    {e : AuthError} (asked : q.Of c) (failed : q.Fails c w e last)
    (unanswered : last.replies = w.replies) :
    e.status? = none ∧ e.response = none ∧
    ((e.transient = true ↔ q.Lost c w) ↔
      q.Addressed c ∨ q.headers c = .error badHeaderValue) ∧
    (¬ q.Addressed c → last = w ∧ (e.transient = true ↔ ∃ h, q.headers c = .ok h)) ∧
    ((∀ number t, q ≠ .projectId number t) → ∃ u, q.address c = some u) ∧
    (∀ s call here, c.Puts s call q here → here.world = w → c.EndsWith s call e here) := by
  have why := Query.unanswered failed unanswered
  obtain ⟨status, response⟩ := why.status?
  obtain ⟨silent, nothing⟩ := why.addressed_cases
  refine ⟨status, response, ?_, fun nowhere => ⟨nothing nowhere, why.transient_iff⟩,
    addressed accepted asked, ?_⟩
  · -- the error follows the headers only, the connection also the address
    rw [why.transient_iff]
    constructor
    · intro agrees
      rcases q.headers_cases c with refused | made
      · exact .inr refused
      · exact .inl (agrees.mp made).2.1
    · rintro (addressed | refused)
      · exact ⟨fun made => ⟨made, addressed, silent addressed made⟩, fun lost => lost.1⟩
      · constructor
        · rintro ⟨h, made⟩
          rw [refused] at made
          cases made
        · exact fun lost => lost.1
  · rintro s call here puts rfl
    exact puts.fails failed

/-! ## §6. A connection that drops, and an address of another scheme. -/

namespace Unreachable

/-- Credentials that are set up for a token endpoint. -/
def setup (tokenUrl : String) : Setup :=
  .declaration ⟨some "//iam/pool", some "jwt", some tokenUrl, none⟩

/-- What they are. -/
def credentials (tokenUrl : String) : Credentials where
  source := .application
  sts := ⟨tokenUrl, .anonymous⟩
  impersonationUrl := none
  audience := "//iam/pool"
  subjectTokenType := "jwt"
  scopes := [platformScope]
  quotaProject := none
  policy := RefreshPolicy.standard
  projectNumber := none
  projectsUrl := standardProjectsUrl

/-- A world in which the connection drops. -/
def world : World where
  network := ⟨true, [.drop], []⟩
  files := ⟨[], []⟩
  clock := .start
  subjects := [.token "subject"]
  log := []

/-- What is asked of the token endpoint. -/
abbrev trade : Query := .exchange "subject"

/-- Credentials whose token endpoint can be reached. -/
abbrev overHttp : Credentials := credentials "http://sts/token"

/-- Credentials whose token endpoint has an address of another scheme. -/
abbrev overFtp : Credentials := credentials "ftp://sts.example/v1/token"

end Unreachable

open Unreachable in
/-- The connection to a token endpoint drops: the error is transient, as the connection has
failed. -/
theorem Setup.unanswered_of_drop :
    (setup "http://sts/token").build .standard none ⟨[], []⟩ = .ok (overHttp, []) ∧
    ∃ e last, trade.Fails overHttp world e last ∧ last.replies = world.replies ∧
      e.status? = none ∧ (e.transient = true ↔ trade.Lost overHttp world) := by
  have accepted : (setup "http://sts/token").build .standard none ⟨[], []⟩
      = .ok (overHttp, []) := rfl
  have dropped : ∃ e last, trade.Fails overHttp world e last ∧ last.replies = world.replies :=
    ⟨_, _, rfl, Eq.trans (b := 0) rfl rfl⟩
  obtain ⟨e, last, failed, unanswered⟩ := dropped
  obtain ⟨status, -, agrees, -⟩ :=
    @Setup.unanswered_iff _ _ _ _ _ _ accepted trade _ _ _ trivial failed unanswered
  have addressed : trade.Addressed overHttp := ⟨_, rfl, rfl⟩
  exact ⟨accepted, e, last, failed, unanswered, status, agrees.mpr (.inl addressed)⟩

open Unreachable in
/-- **An address of another scheme is accepted**, and the caller who asks for a token is told that
the same may succeed later, although nothing has been sent. -/
theorem Setup.unanswered_unsent :
    (setup "ftp://sts.example/v1/token").build .standard none ⟨[], []⟩ = .ok (overFtp, []) ∧
    ¬ trade.Lost overFtp world ∧
    ∃ e, (overFtp.answer (.token .current) (overFtp.session world)).error? = some e ∧
      e.status? = none ∧ e.transient = true ∧
      e.message = "failed to exchange subject token: builder error for url " ++
        "(ftp://sts.example/v1/token)" ∧
      (overFtp.take (.obtain .current) (overFtp.session world)).world.network
        = world.network := by
  refine ⟨rfl, ?_, _, rfl, rfl, rfl, rfl, rfl⟩
  rintro ⟨-, ⟨u, addressed, http⟩, -⟩
  cases addressed
  cases http

end WorkloadIdentity
