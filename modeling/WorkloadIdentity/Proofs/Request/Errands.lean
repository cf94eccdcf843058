/-
  WorkloadIdentity.Proofs.Request.Errands ──── **WHAT AN ACTION SENDS, IN WHICH ORDER.**

  An action on the world has a plan: the errands for which it sends requests, if nothing fails.
  What arrives is always a beginning of the plan, and all of it after a success.  Plans are put
  together as the actions are, so one lemma for each action is enough.

  Main results:
    * `run_bind` — how actions go on, and how they end
    * `Act.follows_bind` — the plan of two actions is one plan after the other
    * `Credentials.fetch_follows` — a subject token, an exchange, a service account's token
    * `Credentials.obtain_received` — the same for a token that may be cached
-/
import WorkloadIdentity.Credentials.Session

namespace WorkloadIdentity

/-! ## §1. Actions one after another. -/

section Actions

variable {σ α β : Type} {x : ExceptT AuthError (StateM σ) α}
  {f : α → ExceptT AuthError (StateM σ) β} {s mid : σ}

/-- The rest goes on from where a success led; after a failure there is no rest. -/
theorem run_bind :
    (x >>= f).run s =
      match x.run s with
      | (.ok a, mid) => (f a).run mid
      | (.error e, mid) => (.error e, mid) := by
  rw [ExceptT.run_bind]
  change StateT.run (x.run >>= _) s = _
  rw [StateT.run_bind]
  change (x.run s >>= _) = _
  rcases x.run s with ⟨result, mid⟩
  cases result <;> rfl

theorem run_bind_ok {a : α} (h : x.run s = (.ok a, mid)) : (x >>= f).run s = (f a).run mid := by
  rw [run_bind, h]

theorem run_bind_error {e : AuthError} (h : x.run s = (.error e, mid)) :
    (x >>= f).run s = (.error e, mid) := by
  rw [run_bind, h]

end Actions

/-! ## §2. Arrivals. -/

/-- From one world to another some requests arrived, in this order.  The clock stood still, and
whoever listened still does. -/
structure World.Received (new : List Arrival) (before after : World) : Prop where
  /-- The requests. -/
  arrived : after.network.arrived = new.reverse ++ before.network.arrived
  /-- Whether somebody listens. -/
  listening : after.network.listening = before.network.listening
  /-- The clock. -/
  clock : after.clock = before.clock

theorem World.received_nil {before after : World} (network : after.network = before.network)
    (clock : after.clock = before.clock) : World.Received [] before after :=
  ⟨by rw [network]; rfl, by rw [network], clock⟩

theorem World.Received.trans {new later : List Arrival} {w₀ w₁ w₂ : World}
    (first : World.Received new w₀ w₁) (second : World.Received later w₁ w₂) :
    World.Received (new ++ later) w₀ w₂ where
  arrived := by
    rw [second.arrived, first.arrived, List.reverse_append, List.append_assoc]
  listening := second.listening.trans first.listening
  clock := second.clock.trans first.clock

/-- All that arrived from one world to another, in order. -/
def World.arrivals (before after : World) : List Arrival :=
  (after.network.arrived.take
    (after.network.arrived.length - before.network.arrived.length)).reverse

theorem World.arrivals_eq {new : List Arrival} {before after : World}
    (h : after.network.arrived = new.reverse ++ before.network.arrived) :
    before.arrivals after = new := by
  unfold World.arrivals
  rw [h, List.length_append, Nat.add_sub_cancel, List.take_left', List.reverse_reverse]
  rfl

/-- What a request leaves behind that is sent: it arrives exactly if it can. -/
theorem Network.send_arrived (n : Network) (errand : Errand) (r : Request) :
    (n.send errand r).2.arrived
      = (if r.url.isHttp && n.listening then [⟨errand, r⟩] else []) ++ n.arrived ∧
    (n.send errand r).2.listening = n.listening := by
  unfold Network.send
  cases hurl : r.url.isHttp with
  | false => simp
  | true =>
    cases hlisten : n.listening with
    | false => simp [hlisten]
    | true => cases n.script <;> simp

/-- Whoever has a response has been heard. -/
theorem Network.heard_of_response {n : Network} {errand : Errand} {r : Request}
    {response : Response} (h : (n.send errand r).1 = .ok response) :
    (r.url.isHttp && n.listening) = true := by
  unfold Network.send at h
  cases hurl : r.url.isHttp with
  | false => simp [hurl] at h
  | true =>
    cases hlisten : n.listening with
    | false => simp [hurl, hlisten] at h
    | true => rfl

/-! ## §3. Plans. -/

namespace Act

variable {α β : Type}

/-- **An action follows a plan**: the errands of its requests are a beginning of it, and all of it
if the action succeeds. -/
def Follows (plan : List Errand) (act : Act α) : Prop :=
  ∀ w, ∃ new, World.Received new w (act.run w).2 ∧ new.map (·.errand) <+: plan ∧
    ∀ a, (act.run w).1 = .ok a → new.map (·.errand) = plan

/-- Nothing arrives by an action that leaves network and clock alone. -/
theorem follows_nil {act : Act α}
    (still : ∀ w, (act.run w).2.network = w.network ∧ (act.run w).2.clock = w.clock) :
    Follows [] act := fun w =>
  ⟨[], World.received_nil (still w).1 (still w).2, List.prefix_rfl, fun _ _ => rfl⟩

theorem follows_pure (a : α) : Follows [] (pure a : Act α) := follows_nil fun _ => ⟨rfl, rfl⟩

theorem follows_throw (e : AuthError) : Follows [] (throw e : Act α) :=
  follows_nil fun _ => ⟨rfl, rfl⟩

theorem follows_throw_bind (e : AuthError) (f : α → Act β) : Follows [] (throw e >>= f) :=
  follows_nil fun _ => ⟨rfl, rfl⟩

theorem follows_note (r : LogRecord) : Follows [] (note r) := follows_nil fun _ => ⟨rfl, rfl⟩

theorem follows_lift (r : Except AuthError α) : Follows [] (lift r) := by
  cases r with
  | ok a => exact follows_pure a
  | error e => exact follows_throw e

/-- **One plan after the other.** -/
theorem follows_bind {plan later : List Errand} {x : Act α} {f : α → Act β}
    (first : Follows plan x) (second : ∀ a, Follows later (f a)) :
    Follows (plan ++ later) (x >>= f) := by
  intro w
  obtain ⟨new, received, beginning, whole⟩ := first w
  rcases hx : x.run w with ⟨result, mid⟩
  rw [hx] at received whole
  cases result with
  | error e =>
    -- the rest is not begun, so what has arrived is all there is
    rw [run_bind_error hx]
    exact ⟨new, received, beginning.trans (List.prefix_append plan later), fun _ h => by cases h⟩
  | ok a =>
    rw [run_bind_ok hx]
    obtain ⟨more, received', beginning', whole'⟩ := second a mid
    refine ⟨new ++ more, received.trans received', ?_, ?_⟩
    · rw [List.map_append, whole a rfl, List.prefix_append_right_inj]
      exact beginning'
    · intro b hb
      rw [List.map_append, whole a rfl, whole' b hb]

/-- What sends nothing does not count at the beginning. -/
theorem follows_then {plan : List Errand} {x : Act α} {f : α → Act β} (first : Follows [] x)
    (second : ∀ a, Follows plan (f a)) : Follows plan (x >>= f) :=
  follows_bind first second

/-- It does not count at the end either. -/
theorem follows_last {plan : List Errand} {x : Act α} {f : α → Act β} (first : Follows plan x)
    (second : ∀ a, Follows [] (f a)) : Follows plan (x >>= f) := by
  have both := follows_bind first second
  rw [List.append_nil] at both
  exact both

/-! ## §4. Requests. -/

theorem run_send (errand : Errand) (r : Request) (w : World) :
    (send errand r).run w
      = ((match (w.network.send errand r).1 with
          | .ok response => .ok response
          | .error e => .error (.ofClient errand.doing e)),
        { w with network := (w.network.send errand r).2 }) := by
  have looked : (getThe World : Act World).run w = (.ok w, w) := rfl
  unfold send
  rw [run_bind_ok looked]
  rcases w.network.send errand r with ⟨outcome, network⟩
  cases outcome <;> rfl

/-- What arrives of a request that is sent. -/
theorem send_received (errand : Errand) (r : Request) (w : World) :
    World.Received (if r.url.isHttp && w.network.listening then [⟨errand, r⟩] else []) w
      ((send errand r).run w).2 := by
  obtain ⟨arrived, listening⟩ := Network.send_arrived w.network errand r
  rw [run_send]
  refine ⟨?_, listening, rfl⟩
  rw [arrived]
  split <;> rfl

/-- Whoever has a response has been heard. -/
theorem heard_of_response {errand : Errand} {r : Request} {w : World} {response : Response}
    (h : ((send errand r).run w).1 = .ok response) :
    (r.url.isHttp && w.network.listening) = true := by
  rw [run_send] at h
  cases hsend : (w.network.send errand r).1 with
  | error e => simp [hsend] at h
  | ok response' => exact Network.heard_of_response hsend

theorem follows_send (errand : Errand) (r : Request) : Follows [errand] (send errand r) := by
  intro w
  refine ⟨_, send_received errand r w, ?_, ?_⟩
  · split <;> simp
  · intro response h
    rw [if_pos (heard_of_response h)]
    rfl

theorem follows_exchange (errand : Errand) (method url : String) (headers : Headers) (body : Body) :
    Follows [errand] (exchange errand method url headers body) := by
  unfold exchange
  cases prepare method url headers body with
  | error e =>
    intro w
    exact ⟨[], World.received_nil rfl rfl, List.nil_prefix, fun _ h => by cases h⟩
  | ok request =>
    refine follows_last (follows_send errand request) fun response => ?_
    cases response.read with
    | error e => exact follows_throw _
    | ok raw => exact follows_pure raw

theorem follows_call (errand : Errand) (method url : String) (headers : Headers) (body : Body) :
    Follows [errand] (call errand method url headers body) := by
  unfold call
  refine follows_last (follows_exchange errand method url headers body) fun raw => ?_
  split
  · exact follows_pure raw
  · exact follows_throw _

end Act

/-! ## §5. Fetching a token. -/

/-- The errands for a subject token: only what lies behind a URL is asked for. -/
def SubjectSource.plan : SubjectSource → List Errand
  | .url _ _ _ => [.subjectToken]
  | .file _ _ | .application => []

namespace SubjectSource

/-- What there is to be read at a path. -/
def content (files : FileSystem) (path : String) : Except AuthError String :=
  match files.resolve path with
  | .error e => .error (.unavailableFrom false (noFile path ++ ": " ++ e.message) (.file e))
  | .ok place =>
    if !files.isFile place then .error (.unavailable (noFile path))
    else match files.textAt place with
    | .error e => .error (.unavailableFrom false
        ("failed to read subject token file " ++ path ++ ": " ++ e.message) (.file e))
    | .ok content => .ok content

/-- A file is read, and that is logged. -/
theorem run_readFile (path : String) (w : World) :
    (readFile path).run w = (content w.files path,
      match content w.files path with
      | .error _ => w
      | .ok _ => w.note (.debug "read subject token file" [("file", path)])) := by
  have looked : (getThe World : Act World).run w = (.ok w, w) := rfl
  unfold readFile content
  rw [run_bind_ok looked]
  dsimp only
  cases w.files.resolve path with
  | error e => rfl
  | ok place =>
    dsimp only
    cases w.files.isFile place with
    | false => rfl
    | true =>
      cases w.files.textAt place with
      | error e => rfl
      | ok text => rfl

theorem readFile_follows (path : String) : Act.Follows [] (readFile path) := by
  refine Act.follows_nil fun w => ?_
  rw [run_readFile]
  cases content w.files path <;> exact ⟨rfl, rfl⟩

theorem readUrl_follows (address : String) (headers : Headers) :
    Act.Follows [.subjectToken] (readUrl address headers) := by
  refine Act.follows_last (Act.follows_exchange .subjectToken "GET" address headers .none)
    fun raw => ?_
  dsimp only
  split
  · exact Act.follows_throw_bind _ _
  · exact Act.follows_then (Act.follows_note _) fun _ => Act.follows_pure _

theorem askApplication_follows : Act.Follows [] askApplication := by
  refine Act.follows_nil fun w => ?_
  have looked : (getThe World : Act World).run w = (.ok w, w) := rfl
  unfold askApplication
  rw [run_bind_ok looked]
  cases w.subjects.head?.getD exhausted <;> exact ⟨rfl, rfl⟩

theorem retrieve_follows (source : SubjectSource) : Act.Follows source.plan source.retrieve := by
  cases source with
  | file path format =>
    exact Act.follows_then (readFile_follows path) fun _ => Act.follows_lift _
  | url address headers format =>
    exact Act.follows_last (readUrl_follows address headers) fun _ => Act.follows_lift _
  | application => exact askApplication_follows

end SubjectSource

theorem Sts.exchange_follows (sts : Sts) (form : ExchangeForm) (caller : Headers) :
    Act.Follows [.exchange] (sts.exchange form caller) := by
  refine Act.follows_then (Act.follows_lift _) fun headers => ?_
  refine Act.follows_last (Act.follows_call _ _ _ _ _) fun raw => ?_
  exact Act.follows_then (Act.follows_lift _) fun answer => Act.follows_pure _

theorem Impersonation.generate_follows (url accessToken : String) (scopes : List String) :
    Act.Follows [.impersonation] (generate url accessToken scopes) := by
  refine Act.follows_then (Act.follows_lift _) fun headers => ?_
  refine Act.follows_last (Act.follows_call _ _ _ _ _) fun raw => ?_
  exact Act.follows_then (Act.follows_lift _) fun answer => Act.follows_lift _

namespace Credentials

/-- **The errands for a token**: a subject token, its exchange, and a token of the service account
if there is one. -/
def plan (c : Credentials) : List Errand :=
  c.source.plan ++ .exchange :: if c.impersonationUrl.isSome then [.impersonation] else []

theorem fetch_follows (c : Credentials) : Act.Follows c.plan c.fetch := by
  refine Act.follows_bind c.source.retrieve_follows fun subjectToken => ?_
  show Act.Follows ([.exchange] ++ _) _
  refine Act.follows_bind (c.sts.exchange_follows _ _) fun answer => ?_
  cases c.impersonationUrl with
  | some url => exact Impersonation.generate_follows _ _ _
  | none =>
    refine Act.follows_then (x := Act.now) ?_ fun now => Act.follows_pure _
    exact Act.follows_nil fun w => ⟨rfl, rfl⟩

theorem count_exchange_plan (c : Credentials) : c.plan.count .exchange = 1 := by
  unfold plan SubjectSource.plan
  cases c.source <;> cases c.impersonationUrl <;> rfl

theorem target_not_mem_plan (c : Credentials) : .target ∉ c.plan := by
  unfold plan SubjectSource.plan
  cases c.source <;> cases c.impersonationUrl <;> simp

/-! ## §6. Tokens in a session. -/

theorem run_obtain (c : Credentials) (d : Demand) (s : Session) :
    (c.obtain d).run s
      = let (outcome, cache, world) := TokenCache.obtain c.host d s.cache s.world
        (outcome, { s with cache := cache, world := world }) := by
  have looked : (getThe Session : Use Session).run s = (.ok s, s) := rfl
  unfold obtain
  rw [run_bind_ok looked]
  rcases TokenCache.obtain c.host d s.cache s.world with ⟨outcome, cache, world⟩
  cases outcome <;> rfl

/-- A usable token is handed out. -/
theorem run_obtain_hit (c : Credentials) {s : Session} {t : AccessToken}
    (found : s.cache.usable? s.world.clock.now = some t) :
    (c.obtain .current).run s
      = (.ok t, { s with world := s.world.note TokenCache.hitRecord }) := by
  rw [run_obtain]
  unfold TokenCache.obtain
  have seen : s.cache.usable? (c.host.now s.world) = some t := found
  rw [seen]
  rfl

/-- Otherwise a token is fetched, kept if there is one, and handed out. -/
theorem run_obtain_fetch (c : Credentials) {d : Demand} {s : Session}
    (stale : d = .current → s.cache.usable? s.world.clock.now = none) :
    (c.obtain d).run s
      = let (outcome, world) := c.fetch.run (s.world.note TokenCache.fetchRecord)
        (outcome, { s with
          cache := s.cache.settle outcome
          world := world.note (TokenCache.settleRecord outcome) }) := by
  rw [run_obtain]
  unfold TokenCache.obtain
  cases d with
  | fresh => rfl
  | current =>
    have missed : s.cache.usable? (c.host.now s.world) = none := stale rfl
    rw [missed]
    rfl

/-- **What arrives until there is a token**: nothing if a usable one is at hand, and otherwise the
requests of a fetch. -/
theorem obtain_received (c : Credentials) (d : Demand) (s : Session) :
    ∃ new, World.Received new s.world ((c.obtain d).run s).2.world ∧
      new.map (·.errand) <+: c.plan ∧
      (d = .current → ∀ t, s.cache.usable? s.world.clock.now = some t → new = []) ∧
      ((d = .current → s.cache.usable? s.world.clock.now = none) →
        ∀ t, ((c.obtain d).run s).1 = .ok t → new.map (·.errand) = c.plan) := by
  by_cases stale : d = .current → s.cache.usable? s.world.clock.now = none
  · obtain ⟨new, received, beginning, whole⟩ :=
      c.fetch_follows (s.world.note TokenCache.fetchRecord)
    rw [run_obtain_fetch c stale]
    refine ⟨new, ⟨received.arrived, received.listening, received.clock⟩, beginning, ?_,
      fun _ => whole⟩
    intro current t found
    rw [stale current] at found
    cases found
  · obtain ⟨rfl, found⟩ := Classical.not_imp.mp stale
    obtain ⟨t, ht⟩ := Option.ne_none_iff_exists'.mp found
    rw [run_obtain_hit c ht]
    exact ⟨[], World.received_nil rfl rfl, List.nil_prefix, fun _ _ _ => rfl,
      fun stale' => absurd stale' stale⟩

end Credentials

end WorkloadIdentity
