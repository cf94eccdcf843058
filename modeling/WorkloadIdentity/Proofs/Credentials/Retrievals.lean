/-
  WorkloadIdentity.Proofs.Credentials.Retrievals ──── **WHAT A CALLER IS TOLD, AND WHAT IS RETRIEVED
  FOR IT.**

  One caller at a time uses credentials.  The story of its calls tells page by page what each of
  them answered, which requests it sent, and how it left the cache with all that was announced.
  What was retrieved from the source of subject tokens stands beside the story: no answer tells of
  it.

  **RULE**: a subject token is retrieved whenever a token is fetched, and only then; so there are as
  many retrievals as the log tells of fetches.

  Main results:
    * `Credentials.story`, `Credentials.retrievals` — the two traces of a list of calls
    * `Credentials.length_retrievals` — the log counts the retrievals
-/
import WorkloadIdentity.Proofs.Credentials.Invariants

namespace WorkloadIdentity

/-! ## §1. Stories. -/

namespace Credentials

/-- What one caller can ask for, and what changes around it. -/
inductive Call where
  /-- A token is asked for. -/
  | token (d : Demand)
  /-- The headers of a request are asked for. -/
  | headers
  /-- The id of the project is asked for. -/
  | projectId
  /-- A request is made. -/
  | request (r : Request)
  /-- A token is put in place. -/
  | install (t : AccessToken)
  /-- Somebody wants to hear of new tokens. -/
  | subscribe
  /-- A subscriber looks for news. -/
  | receive (subscription : Nat)
  /-- The files change. -/
  | files (fs : FileSystem)
  /-- The clock is adjusted. -/
  | adjust (a : Clock.Adjustment)

/-- The action that it is. -/
def Call.action : Call → Action
  | .token d => .obtain d
  | .headers => .headers
  | .projectId => .projectId
  | .request r => .request r
  | .install t => .install t
  | .subscribe => .subscribe
  | .receive i => .receive i
  | .files fs => .files fs
  | .adjust a => .adjust a

/-- What is answered. -/
inductive Answer where
  /-- A token, or why there is none. -/
  | token (outcome : Outcome)
  /-- Headers, or why there are none. -/
  | headers (made : Except AuthError Headers)
  /-- The id of the project if it has one, or why it is not known. -/
  | projectId (found : Except AuthError (Option String))
  /-- A response, or why there is none. -/
  | response (result : Except AuthError Response)
  /-- The number of a subscription. -/
  | subscription (number : Nat)
  /-- What a subscriber gets. -/
  | delivery (d : Delivery TokenNotice)
  /-- Nothing is answered. -/
  | nothing

/-- The answer to a call. -/
def answer (c : Credentials) : Call → Session → Answer
  | .token d, s => .token ((c.obtain d).run s).1
  | .headers, s => .headers (c.headers.run s).1
  | .projectId, s => .projectId (c.projectId.run s).1
  | .request r, s => .response ((c.request r).run s).1
  | .subscribe, s => .subscription s.cache.feed.subscribe.1
  | .receive i, s => .delivery (s.cache.feed.receive i).1
  | .install _, _ | .files _, _ | .adjust _, _ => .nothing

/-- **A page of a story**: what can be seen of one call. -/
structure Page where
  /-- What was answered. -/
  answer : Answer
  /-- The requests that arrived, in order. -/
  requests : List Arrival
  /-- The cache afterwards, with all that has been announced. -/
  cache : TokenCache

/-- The page of a call. -/
def page (c : Credentials) (call : Call) (s : Session) : Page :=
  let next := c.take call.action s
  ⟨c.answer call s, s.arrivals next, next.cache⟩

/-- **The story of a list of calls.** -/
def story (c : Credentials) : List Call → Session → List Page
  | [], _ => []
  | call :: rest, s => c.page call s :: c.story rest (c.take call.action s)

end Credentials

/-! ## §2. Retrievals. -/

/-- What is retrieved from a source of subject tokens, by where an action begins. -/
abbrev Trace (σ : Type) := σ → List (Except AuthError String)

namespace Trace

variable {σ α : Type}

/-- Nothing is retrieved. -/
def nothing : Trace σ := fun _ => []

/-- What is retrieved by an action and then, if it succeeds, by what follows it. -/
def andThen (first : Trace σ) (x : ExceptT AuthError (StateM σ) α) (later : α → Trace σ) : Trace σ :=
  fun s => first s ++
    match x.run s with
    | (.ok a, mid) => later a mid
    | (.error _, _) => []

theorem andThen_ok {first : Trace σ} {x : ExceptT AuthError (StateM σ) α} {later : α → Trace σ}
    {s mid : σ} {a : α} (ran : x.run s = (.ok a, mid)) :
    first.andThen x later s = first s ++ later a mid := by
  unfold andThen
  rw [ran]

theorem andThen_error {first : Trace σ} {x : ExceptT AuthError (StateM σ) α}
    {later : α → Trace σ} {s mid : σ} {e : AuthError} (ran : x.run s = (.error e, mid)) :
    first.andThen x later s = first s := by
  unfold andThen
  rw [ran]
  exact List.append_nil _

theorem andThen_nothing (first : Trace σ) (x : ExceptT AuthError (StateM σ) α) :
    first.andThen x (fun _ => nothing) = first := by
  funext s
  rcases ran : x.run s with ⟨result, mid⟩
  cases result with
  | error e => exact andThen_error ran
  | ok a => exact (andThen_ok ran).trans (List.append_nil _)

end Trace

namespace Credentials

open Trace

/-- What is retrieved while a caller gets a token: nothing if a usable one is at hand. -/
def drawn (c : Credentials) (d : Demand) : Trace Session := fun s =>
  match d, s.cache.usable? s.world.clock.now with
  | .current, some _ => []
  | _, _ => [(c.source.retrieve.run (s.world.note TokenCache.fetchRecord)).1]

section Drawn

variable {c : Credentials} {s : Session} {d : Demand} {t : AccessToken}

theorem drawn_of_hit (hit : s.cache.usable? s.world.clock.now = some t) :
    c.drawn .current s = [] := by
  unfold drawn
  rw [hit]

theorem drawn_of_stale (stale : d = .current → s.cache.usable? s.world.clock.now = none) :
    c.drawn d s = [(c.source.retrieve.run (s.world.note TokenCache.fetchRecord)).1] := by
  unfold drawn
  cases d with
  | fresh => rfl
  | current => rw [stale rfl]

end Drawn

/-- What is retrieved while a request is made: for the token that it is sent with and, after a
refusal, for a fresh token and for the one that it is sent with again. -/
def drawnByRequest (c : Credentials) (r : Request) : Trace Session :=
  (c.drawn .current).andThen (c.sendWithToken r) fun response =>
    match if c.policy.retryRefused then r.replay? else none with
    | none => nothing
    | some _ =>
      if response.raw.status.isAuthFailure then
        nothing.andThen (Use.outside (Act.note (refusalRecord response.raw.status))) fun _ =>
          (c.drawn .fresh).andThen (c.obtain .fresh) fun _ => c.drawn .current
      else nothing

/-- What is retrieved while the id of the project is asked for: for the token of the lookup. -/
def drawnByProjectId (c : Credentials) : Trace Session := fun s =>
  if c.projectNumber.isSome && s.projectId.isNone then c.drawn .current s else []

theorem drawnByProjectId_of_none {c : Credentials} (number : c.projectNumber = none) :
    c.drawnByProjectId = nothing := by
  funext s
  unfold drawnByProjectId
  rw [number]
  rfl

/-- With a number it matters whether the id is known already. -/
theorem drawnByProjectId_of_some {c : Credentials} {number : String}
    (numbered : c.projectNumber = some number) :
    c.drawnByProjectId =
      fun s => (s.projectId.elim (c.drawn .current) fun _ => nothing : Trace Session) s := by
  funext s
  unfold drawnByProjectId
  rw [numbered]
  cases s.projectId <;> rfl

/-- What is retrieved by a call. -/
def drawnBy (c : Credentials) : Call → Trace Session
  | .token d => c.drawn d
  | .headers => c.drawn .current
  | .projectId => c.drawnByProjectId
  | .request r => c.drawnByRequest r
  | .install _ | .subscribe | .receive _ | .files _ | .adjust _ => nothing

/-- **What is retrieved by a list of calls**, in order. -/
def retrievals (c : Credentials) : List Call → Trace Session
  | [], _ => []
  | call :: rest, s => c.drawnBy call s ++ c.retrievals rest (c.take call.action s)

end Credentials

/-! ## §3. The log counts them. -/

/-- How many fetches a log tells of. -/
def World.fetches (w : World) : Nat := w.log.count TokenCache.fetchRecord

/-- Whatever is sent, asked and logged besides, is no fetch. -/
theorem stable_fetches (n : Nat) : World.Stable fun w => w.fetches = n where
  sent _ _ _ kept := kept
  subjects _ kept := kept
  note w r other kept := by
    unfold World.fetches World.note
    rw [List.count_cons_of_ne other]
    exact kept

/-- **An action retrieves as often as it fetches**, as far as the log tells. -/
def Counts {α : Type} (trace : Trace Session) (x : Use α) : Prop :=
  ∀ s, (x.run s).2.world.fetches = s.world.fetches + (trace s).length

namespace Counts

open Trace

variable {α β : Type}

theorem pure (a : α) : Counts nothing (pure a : Use α) := fun _ => rfl

theorem throw (e : AuthError) : Counts nothing (throw e : Use α) := fun _ => rfl

theorem outside {act : Act α} (h : ∀ n, RunKeeps (fun w => w.fetches = n) act) :
    Counts nothing (Use.outside act) := by
  intro s
  rw [run_outside]
  exact h s.world.fetches s.world rfl

theorem bind {first : Trace Session} {x : Use α} {later : α → Trace Session} {f : α → Use β}
    (counts : Counts first x) (next : ∀ a, Counts (later a) (f a)) :
    Counts (first.andThen x later) (x >>= f) := by
  intro s
  have here := counts s
  rcases ran : x.run s with ⟨result, mid⟩
  rw [ran] at here
  cases result with
  | error e =>
    rw [run_bind_error ran, andThen_error ran]
    exact here
  | ok a =>
    rw [run_bind_ok ran, andThen_ok ran, next a mid, here, List.length_append, Nat.add_assoc]

theorem last {first : Trace Session} {x : Use α} {f : α → Use β} (counts : Counts first x)
    (next : ∀ a, Counts nothing (f a)) : Counts first (x >>= f) := by
  have both := bind counts next
  rw [andThen_nothing] at both
  exact both

end Counts

namespace Credentials

open Trace

variable (c : Credentials)

theorem settleRecord_ne (outcome : Outcome) :
    TokenCache.settleRecord outcome ≠ TokenCache.fetchRecord := by
  cases outcome with
  | ok t => exact World.Stable.other_record (by decide)
  | error e => exact fun same => nomatch congrArg LogRecord.level same

theorem refusalRecord_ne (status : Status) : refusalRecord status ≠ TokenCache.fetchRecord :=
  fun same => nomatch congrArg LogRecord.level same

theorem obtain_counts (d : Demand) : Counts (c.drawn d) (c.obtain d) := by
  intro s
  rcases s.hit_or_stale d with ⟨t, rfl, hit⟩ | stale
  · rw [c.run_obtain_hit hit, drawn_of_hit hit]
    exact (stable_fetches _).note _ _ (World.Stable.other_record (by decide)) rfl
  · have noted : (s.world.note TokenCache.fetchRecord).fetches = s.world.fetches + 1 :=
      List.count_cons_self
    rw [c.run_obtain_fetch stale, drawn_of_stale stale, List.length_singleton, ← noted]
    -- between the two records the log tells of nothing else
    have fetched := (stable_fetches _).fetch c (s.world.note TokenCache.fetchRecord) rfl
    exact (stable_fetches _).note _ _ (settleRecord_ne _) fetched

theorem headers_count : Counts (c.drawn .current) c.headers := by
  refine Counts.last (c.obtain_counts .current) fun t => ?_
  split
  · exact Counts.pure _
  · exact Counts.throw _

theorem sendWithToken_counts (r : Request) :
    Counts (c.drawn .current) (c.sendWithToken r) :=
  Counts.last c.headers_count fun _ => Counts.outside fun n => (stable_fetches n).send _ _

theorem told_counts (response : Response) :
    Counts nothing (match successful response with
      | .ok first => return first
      | .error e => throw e) := by
  cases successful response with
  | ok first => exact Counts.pure first
  | error e => exact Counts.throw e

theorem request_counts (r : Request) : Counts (c.drawnByRequest r) (c.request r) := by
  refine Counts.bind (c.sendWithToken_counts r) fun response => ?_
  dsimp only
  cases (if c.policy.retryRefused then r.replay? else none) with
  | none => exact told_counts response
  | some again =>
    dsimp only
    split
    · -- the refusal is logged, and then there may be two more retrievals
      refine Counts.bind (Counts.outside fun n =>
        (stable_fetches n).log (refusalRecord_ne _)) fun _ => ?_
      refine Counts.bind (c.obtain_counts .fresh) fun _ => ?_
      exact Counts.last (c.sendWithToken_counts again) fun second => told_counts second
    · exact told_counts response

theorem projectId_counts : Counts c.drawnByProjectId c.projectId := by
  cases number : c.projectNumber with
  | none =>
    rw [drawnByProjectId_of_none number, projectId_of_none number]
    exact Counts.pure none
  | some number' =>
    rw [drawnByProjectId_of_some number, projectId_of_number number]
    intro s
    have looked : (getThe Session : Use Session).run s = (.ok s, s) := rfl
    rw [run_bind_ok looked]
    dsimp only
    cases s.projectId with
    | some id => rfl
    | none =>
      have counts : Counts (c.drawn .current) (c.projectIdBy number' none) :=
        Counts.last c.headers_count fun h =>
          Counts.last (Counts.outside fun n => (stable_fetches n).lookup _ _ _) fun found =>
            Counts.last (fun _ => rfl) fun _ => Counts.pure _
      exact counts s

theorem take_counts (call : Call) (s : Session) :
    (c.take call.action s).world.fetches = s.world.fetches + (c.drawnBy call s).length := by
  cases call with
  | token d => exact c.obtain_counts d s
  | headers => exact c.headers_count s
  | projectId => exact c.projectId_counts s
  | request r => exact c.request_counts r s
  | install | subscribe | receive | files | adjust => rfl

/-- **There are as many retrievals as the log tells of fetches.** -/
theorem length_retrievals (calls : List Call) (s : Session) :
    (c.run (calls.map Call.action) s).world.fetches
      = s.world.fetches + (c.retrievals calls s).length := by
  induction calls generalizing s with
  | nil => rfl
  | cons call rest ih =>
    have later := ih (c.take call.action s)
    rw [take_counts] at later
    show (c.run (rest.map Call.action) (c.take call.action s)).world.fetches = _
    rw [later, retrievals, List.length_append, Nat.add_assoc]

end Credentials

end WorkloadIdentity
