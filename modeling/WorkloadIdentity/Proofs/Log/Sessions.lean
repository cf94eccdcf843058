/-
  WorkloadIdentity.Proofs.Log.Sessions ──── **TWO SESSIONS SIDE BY SIDE.**

  A session is a world with a cache in front of it.  Two of them are compared as worlds are, and
  their caches by what they decide: whether there is a usable token, and when it expires.  All that
  an application can do with credentials is a list of actions, and two lists that differ in secrets
  lead from two such sessions to two such sessions.

  Main results:
    * `Credentials.obtain_twins`, `Credentials.request_twins` — callers one at a time
    * `Callers.served_twins`    — callers who come together
    * `Credentials.run_twins`   — a list of actions
-/
import WorkloadIdentity.Proofs.Log.Twins
import WorkloadIdentity.Proofs.Request.Attempt

namespace WorkloadIdentity

/-! ## §1. Sessions. -/

/-- **Two caches that decide alike.**  What was announced is not compared: it is never logged. -/
structure TokenCache.Alike (c c' : TokenCache) : Prop where
  /-- How long before its expiry a token is no longer used. -/
  threshold : c.threshold = c'.threshold
  /-- The tokens. -/
  stored : Option.Rel AccessToken.Alike c.stored c'.stored

/-- **Two sessions differ in secrets only.** -/
structure Session.Alike (source : SubjectSource) (errands : List Errand) (s s' : Session) :
    Prop where
  /-- The worlds. -/
  world : s.world.Alike source errands s'.world
  /-- The caches. -/
  cache : s.cache.Alike s'.cache
  /-- The id of the project. -/
  projectId : s.projectId = s'.projectId

/-- How sessions are compared. -/
def Session.comparison (source : SubjectSource) : Comparison Session :=
  ⟨fun s => s.world.network.arrived, fun errands s s' => s.Alike source errands s'⟩

namespace TokenCache

variable {c c' : TokenCache}

theorem Alike.refl (c : TokenCache) : c.Alike c := by
  refine ⟨rfl, ?_⟩
  cases c.stored with
  | none => exact .none
  | some t => exact .some (.refl t)

theorem usable?_alike (h : c.Alike c') (now : Int) :
    Option.Rel AccessToken.Alike (c.usable? now) (c'.usable? now) := by
  unfold usable?
  have stored := h.stored
  generalize c.stored = t at stored
  generalize c'.stored = t' at stored
  cases stored with
  | none => exact .none
  | @some t t' related =>
    have same : t.isUsable now c.threshold = t'.isUsable now c'.threshold := by
      unfold AccessToken.isUsable
      rw [related.expiry, h.threshold]
    rw [Option.filter_some, Option.filter_some, same]
    split
    · exact .some related
    · exact .none

theorem settle_alike (h : c.Alike c') {outcome outcome' : Outcome}
    (ended : Ended AccessToken.Alike outcome outcome') :
    (c.settle outcome).Alike (c'.settle outcome') := by
  cases ended with
  | ok related => exact ⟨h.threshold, .some related⟩
  | same | apart => exact h

end TokenCache

variable {source : SubjectSource} {α : Type} {R : α → α → Prop}

/-- Two actions in a session are twins. -/
abbrev UseTwins (source : SubjectSource) (R : α → α → Prop) (x x' : Use α) : Prop :=
  RunTwins (Session.comparison source) R x x'

/-- **Twins on the world are twins in a session.** -/
theorem Session.within_twins {g g' : World → α × World}
    (h : Twins (World.comparison source) R g g') :
    Twins (Session.comparison source) R
      (fun s => ((g s.world).1, { s with world := (g s.world).2 }))
      fun s => ((g' s.world).1, { s with world := (g' s.world).2 }) := by
  intro s
  obtain ⟨new, arrived, twin⟩ := h s.world
  refine ⟨new, arrived, fun later s' alike => ?_⟩
  obtain ⟨related, world⟩ := twin later s'.world alike.world
  exact ⟨related, world, alike.cache, alike.projectId⟩

/-- So are twin actions. -/
theorem Use.outside_twins {act act' : Act α} (h : Act.ActTwins source R act act') :
    UseTwins source R (Use.outside act) (Use.outside act') := by
  have unfolded (act : Act α) : (fun s => (Use.outside act).run s) = fun s : Session =>
      ((act.run s.world).1, { s with world := (act.run s.world).2 }) :=
    funext fun s => run_outside act s
  unfold UseTwins RunTwins
  rw [unfolded, unfolded]
  exact Session.within_twins h

/-! ## §2. One caller at a time. -/

namespace Credentials

variable {c c' : Credentials}

/-- A fetch whose token is kept, and what is logged about it. -/
def renewed (c : Credentials) (s : Session) : Outcome × Session :=
  let (outcome, world) := c.fetch.run (s.world.note TokenCache.fetchRecord)
  (outcome, { s with
    cache := s.cache.settle outcome
    world := world.note (TokenCache.settleRecord outcome) })

theorem renewed_twins (h : c.Alike c') :
    Twins (Session.comparison c.source) (Ended AccessToken.Alike) c.renewed c'.renewed := by
  intro s
  obtain ⟨new, arrived, twin⟩ := fetch_twins h (s.world.note TokenCache.fetchRecord)
  refine ⟨new, arrived, fun later s' alike => ?_⟩
  obtain ⟨ended, world⟩ := twin later (s'.world.note TokenCache.fetchRecord)
    (alike.world.note (.same _))
  exact ⟨ended, world.note (settleRecord_alike ended), TokenCache.settle_alike alike.cache ended,
    alike.projectId⟩

/-- **Two callers** are both served from the cache, or both fetch a token. -/
theorem obtain_twins (h : c.Alike c') (d : Demand) :
    UseTwins c.source AccessToken.Alike (c.obtain d) (c'.obtain d) := by
  intro s
  show ∃ new : List Arrival,
    ((c.obtain d).run s).2.world.network.arrived = new.reverse ++ s.world.network.arrived ∧
      ∀ later s', s.Alike c.source (new.map (·.errand) ++ later) s' →
        Ended _ ((c.obtain d).run s).1 ((c'.obtain d).run s').1 ∧
          Session.Alike c.source later ((c.obtain d).run s).2 ((c'.obtain d).run s').2
  by_cases stale : d = .current → s.cache.usable? s.world.clock.now = none
  · obtain ⟨new, arrived, twin⟩ := renewed_twins h s
    rw [run_obtain_fetch c stale]
    refine ⟨new, arrived, fun later s' alike => ?_⟩
    have stale' : d = .current → s'.cache.usable? s'.world.clock.now = none := by
      intro current
      have both := TokenCache.usable?_alike alike.cache s.world.clock.now
      rw [stale current] at both
      rw [← alike.world.clock]
      generalize s'.cache.usable? s.world.clock.now = u at both
      cases both
      rfl
    rw [run_obtain_fetch c' stale']
    exact twin later s' alike
  · obtain ⟨rfl, found⟩ := Classical.not_imp.mp stale
    obtain ⟨t, ht⟩ := Option.ne_none_iff_exists'.mp found
    rw [run_obtain_hit c ht]
    refine ⟨[], rfl, fun later s' alike => ?_⟩
    have both := TokenCache.usable?_alike alike.cache s.world.clock.now
    rw [ht, alike.world.clock] at both
    obtain ⟨t', ht', related⟩ :
        ∃ t', s'.cache.usable? s'.world.clock.now = some t' ∧ t.Alike t' := by
      generalize s'.cache.usable? s'.world.clock.now = u at both
      cases both with
      | some related => exact ⟨_, rfl, related⟩
    rw [run_obtain_hit c' ht']
    exact ⟨.ok related, alike.world.note (.same _), alike.cache, alike.projectId⟩

theorem Alike.quotaProject (h : c.Alike c') : c.quotaProject = c'.quotaProject := by
  obtain ⟨a, rfl⟩ := h
  rfl

/-- Headers are made for both, or refused for both. -/
theorem headers_twins (h : c.Alike c') :
    UseTwins c.source (fun _ _ => True) c.headers c'.headers := by
  unfold headers
  refine RunTwins.bind AccessToken.Alike.refl (obtain_twins h .current) fun t t' related => ?_
  unfold sign
  rw [← h.quotaProject]
  have made := bearerHeaders_alike related.token c.quotaProject
  generalize bearerHeaders t.token c.quotaProject = x at made
  generalize bearerHeaders t'.token c.quotaProject = x' at made
  cases made with
  | ok => exact .pure trivial
  | same e => exact .throw e
  | apart apart => exact Twins.still (fun _ => rfl) fun _ _ _ alike => ⟨.apart apart, alike⟩

/-- **Two sendings of a request** bring the same response, or fail alike. -/
theorem sendWithToken_twins (h : c.Alike c') (r : Request) :
    UseTwins c.source Eq (c.sendWithToken r) (c'.sendWithToken r) := by
  unfold sendWithToken
  refine RunTwins.bind (fun _ => trivial) (headers_twins h) fun k k' _ => ?_
  have address : (addHeaders r k).url = (addHeaders r k').url := rfl
  have sent : Act.ActTwins c.source (Response.Alike c.source.format .target) _ _ :=
    Act.send_twins address
  refine (Use.outside_twins sent).weaken fun x x' ended => ?_
  cases ended with
  | same e => exact .same e
  | apart apart => exact .apart apart
  | @ok a a' related =>
    obtain ⟨raw, url, complete⟩ := a
    obtain ⟨raw', url', complete'⟩ := a'
    cases related.raw.eq_of_errand (.inr rfl)
    cases related.url
    cases related.complete
    exact .ok rfl

/-- What is made of a response, told to the caller. -/
theorem successful_twins (response : Response) :
    UseTwins source Eq
      (match successful response with
        | .ok first => return first
        | .error e => throw e)
      (match successful response with
        | .ok first => return first
        | .error e => throw e) := by
  cases successful response with
  | ok first => exact .pure rfl
  | error e => exact .throw e

theorem Alike.policy (h : c.Alike c') : c.policy = c'.policy := by
  obtain ⟨a, rfl⟩ := h
  rfl

/-- **Two requests** take the same course. -/
theorem request_twins (h : c.Alike c') (r : Request) :
    UseTwins c.source Eq (c.request r) (c'.request r) := by
  unfold request
  refine RunTwins.bind (fun _ => rfl) (sendWithToken_twins h r) fun first _ same => ?_
  subst same
  rw [← h.policy]
  dsimp only
  cases (if c.policy.retryRefused then r.replay? else none) with
  | none => exact successful_twins first
  | some again =>
    dsimp only
    split
    · -- the refusal is logged, and then everything is done once more
      refine RunTwins.bind (fun _ => trivial) (Use.outside_twins (Act.note_twins (.same _)))
        fun _ _ _ => ?_
      refine RunTwins.bind AccessToken.Alike.refl (obtain_twins h .fresh) fun _ _ _ => ?_
      refine RunTwins.bind (fun _ => rfl) (sendWithToken_twins h again) fun second _ same => ?_
      subst same
      exact successful_twins second
    · exact successful_twins first

/-- The id of a project is asked for, and found to be the same. -/
theorem lookup_twins (url number : String) (k k' : Headers) :
    Act.ActTwins source Eq (Project.lookup url number k) (Project.lookup url number k') := by
  unfold Project.lookup
  refine RunTwins.bind .same Act.call_twins fun raw raw' related => ?_
  cases related.eq_of_errand (.inl rfl)
  refine RunTwins.bind (fun _ => rfl) (Act.lift_twins (Ended.of_eq (fun _ => rfl) _))
    fun found _ same => ?_
  subst same
  exact RunTwins.bind (fun _ => trivial) (Act.note_twins (.same _)) fun _ _ _ => .pure rfl

/-- The id of the project with a number, by what is known of it. -/
def projectIdBy (c : Credentials) (number : String) : Option String → Use (Option String)
  | some known => return some known
  | none => do
    let h ← c.headers
    let found ← Use.outside (Project.lookup c.projectsUrl number h)
    modifyThe Session fun s => { s with projectId := some found }
    return some found

theorem projectIdBy_twins (h : c.Alike c') (number : String) (known : Option String) :
    UseTwins c.source Eq (c.projectIdBy number known) (c'.projectIdBy number known) := by
  have url : c.projectsUrl = c'.projectsUrl := by
    obtain ⟨a, rfl⟩ := h
    rfl
  cases known with
  | some id => exact .pure rfl
  | none =>
    unfold projectIdBy
    rw [← url]
    refine RunTwins.bind (fun _ => trivial) (headers_twins h) fun k k' _ => ?_
    refine RunTwins.bind (fun _ => rfl) (Use.outside_twins (lookup_twins _ _ k k'))
      fun found _ same => ?_
    subst same
    have kept : UseTwins c.source (fun _ _ => True)
        (modifyThe Session fun s => { s with projectId := some found })
        (modifyThe Session fun s => { s with projectId := some found }) :=
      Twins.still (fun _ => rfl) fun _ _ _ alike => ⟨.ok trivial, alike.world, alike.cache, rfl⟩
    exact RunTwins.bind (fun _ => trivial) kept fun _ _ _ => .pure rfl

theorem projectId_of_number {number : String} (h : c.projectNumber = some number) :
    c.projectId = getThe Session >>= fun s => c.projectIdBy number s.projectId := by
  unfold projectId
  rw [h]
  dsimp only
  refine congrArg (getThe Session >>= ·) (funext fun s => ?_)
  cases s.projectId <;> rfl

/-- **Two questions for the id of the project** have the same answer. -/
theorem projectId_twins (h : c.Alike c') :
    UseTwins c.source Eq c.projectId c'.projectId := by
  have same : c.projectNumber = c'.projectNumber := by
    obtain ⟨a, rfl⟩ := h
    rfl
  cases number : c.projectNumber with
  | none =>
    unfold projectId
    rw [← same, number]
    exact .pure rfl
  | some number' =>
    rw [projectId_of_number number, projectId_of_number (same ▸ number)]
    exact RunTwins.look (m := Session.comparison c.source) Session.projectId
      (fun _ _ _ alike => alike.projectId) fun known => projectIdBy_twins h number' known

end Credentials

/-! ## §3. Callers who come together.

Two crowds make the same moves, since a move is possible or not by who holds the lock, where a
caller stands and whether there is a usable token, and none of that is secret. -/

/-- Two callers stand at the same place. -/
inductive Phase.Alike : Phase → Phase → Prop where
  /-- They wait. -/
  | waiting (d : Demand) : Alike (.waiting d) (.waiting d)
  /-- They fetch. -/
  | fetching : Alike .fetching .fetching
  /-- They have their answers. -/
  | answered {outcome outcome' : Outcome} (h : Ended AccessToken.Alike outcome outcome') :
      Alike (.answered outcome) (.answered outcome')

/-- **Two caches with callers at them.** -/
structure Callers.Alike (s s' : Callers) : Prop where
  /-- The caches. -/
  cache : s.cache.Alike s'.cache
  /-- Where the callers stand. -/
  phases : List.Forall₂ Phase.Alike s.phases s'.phases
  /-- Who holds the lock. -/
  holder : s.holder = s'.holder

/-- Two moves, if they are possible: alike states, and records that are alike. -/
def Callers.StepAlike : Option Callers.Step → Option Callers.Step → Prop :=
  Option.Rel fun step step' => step.1.Alike step'.1 ∧ List.Forall₂ LogRecord.Alike step.2 step'.2

section Lists

variable {β : Type} {P : β → β → Prop} {l l' : List β}

theorem getElem?_rel (h : List.Forall₂ P l l') (i : Nat) : Option.Rel P l[i]? l'[i]? := by
  induction h generalizing i with
  | nil => exact .none
  | cons first _ ih =>
    cases i with
    | zero => exact .some first
    | succ i => exact ih i

theorem forall₂_set (h : List.Forall₂ P l l') (i : Nat) {x x' : β} (hx : P x x') :
    List.Forall₂ P (l.set i x) (l'.set i x') := by
  induction h generalizing i with
  | nil => exact .nil
  | cons first later ih =>
    cases i with
    | zero => exact .cons hx later
    | succ i => exact .cons first (ih i)

end Lists

namespace Callers

variable {s s' : Callers}

/-- One record that is the same on both sides. -/
theorem single_record (r : LogRecord) : List.Forall₂ LogRecord.Alike [r] [r] :=
  .cons (.same r) .nil

theorem arrive_alike (h : s.Alike s') (now : Int) (d : Demand) :
    StepAlike (some (s.arrive now d)) (some (s'.arrive now d)) := by
  have usable := TokenCache.usable?_alike h.cache now
  have joined {p p' : Phase} (related : p.Alike p') :
      List.Forall₂ Phase.Alike (s.phases ++ [p]) (s'.phases ++ [p']) :=
    List.rel_append h.phases (.cons related .nil)
  unfold arrive
  generalize s.cache.usable? now = t at usable
  generalize s'.cache.usable? now = t' at usable
  cases d with
  | fresh => exact .some ⟨⟨h.cache, joined (.waiting _), h.holder⟩, .nil⟩
  | current =>
    cases usable with
    | none => exact .some ⟨⟨h.cache, joined (.waiting _), h.holder⟩, .nil⟩
    | some related =>
      exact .some ⟨⟨h.cache, joined (.answered (.ok related)), h.holder⟩, single_record _⟩

theorem enter?_alike (h : s.Alike s') (now : Int) (caller : Nat) :
    StepAlike (s.enter? now caller) (s'.enter? now caller) := by
  have usable := TokenCache.usable?_alike h.cache now
  have phase := getElem?_rel h.phases caller
  have moved {p p' : Phase} (related : p.Alike p') :
      List.Forall₂ Phase.Alike (s.phases.set caller p) (s'.phases.set caller p') :=
    forall₂_set h.phases caller related
  unfold enter?
  rw [← h.holder]
  generalize s.cache.usable? now = t at usable
  generalize s'.cache.usable? now = t' at usable
  generalize s.phases[caller]? = p at phase
  generalize s'.phases[caller]? = p' at phase
  cases holder : s.holder with
  | some other => exact .none
  | none =>
    cases phase with
    | none => exact .none
    | some related =>
      cases related with
      | fetching | answered => exact .none
      | waiting d =>
        cases d with
        | fresh => exact .some ⟨⟨h.cache, moved .fetching, rfl⟩, single_record _⟩
        | current =>
          cases usable with
          | none => exact .some ⟨⟨h.cache, moved .fetching, rfl⟩, single_record _⟩
          | some related =>
            exact .some ⟨⟨h.cache, moved (.answered (.ok related)), rfl⟩, single_record _⟩

theorem settle?_alike (h : s.Alike s') {outcome outcome' : Outcome}
    (ended : Ended AccessToken.Alike outcome outcome') :
    StepAlike (s.settle? outcome) (s'.settle? outcome') := by
  unfold settle?
  rw [← h.holder]
  cases s.holder with
  | none => exact .none
  | some caller =>
    exact .some ⟨⟨TokenCache.settle_alike h.cache ended,
      forall₂_set h.phases caller (.answered ended), rfl⟩, .cons (settleRecord_alike ended) .nil⟩

/-! ### The schedule. -/

variable {c c' : Credentials}

theorem noteAll_alike {errands : List Errand} {w w' : World} (alike : w.Alike source errands w')
    {records records' : List LogRecord} (h : List.Forall₂ LogRecord.Alike records records') :
    (noteAll c.host records w).Alike source errands (noteAll c'.host records' w') := by
  induction h generalizing w w' with
  | nil => exact alike
  | cons first _ ih => exact ih (alike.note first)

theorem noteAll_arrived (records : List LogRecord) (w : World) :
    (noteAll c.host records w).network.arrived = w.network.arrived := by
  induction records generalizing w with
  | nil => rfl
  | cons r _ ih => exact ih (w.note r)

/-- Two moves that are computed from the reading of the clock. -/
theorem make_twins (source : SubjectSource) (c c' : Credentials) (h : s.Alike s')
    {step step' : Int → Option Step} (steps : ∀ now, StepAlike (step now) (step' now)) :
    Twins (World.comparison source) Alike (fun w => make c.host s w (step w.clock.now))
      (fun w => make c'.host s' w (step' w.clock.now)) := by
  refine Twins.still (fun w => ?_) fun errands w w' alike => ?_
  · show (make c.host s w (step w.clock.now)).2.network.arrived = w.network.arrived
    unfold make
    cases step w.clock.now with
    | none => rfl
    | some next => exact noteAll_arrived next.2 w
  · have related := steps w.clock.now
    rw [← show w.clock = w'.clock from alike.clock]
    unfold make
    generalize step w.clock.now = x at related
    generalize step' w.clock.now = x' at related
    cases related with
    | none => exact ⟨h, alike⟩
    | some related => exact ⟨related.1, noteAll_alike alike related.2⟩

theorem Alike.refl (s : Callers) : s.Alike s := by
  refine ⟨.refl s.cache, ?_, rfl⟩
  refine List.forall₂_same.mpr fun p _ => ?_
  cases p with
  | waiting d => exact .waiting d
  | fetching => exact .fetching
  | answered outcome => exact .answered (Ended.of_eq AccessToken.Alike.refl outcome)

/-- One caller comes, and takes the lock if it is free. -/
def come (h : TokenHost World) (d : Demand) (s : Callers) (w : World) : Callers × World :=
  let arrived := make h s w (some (s.arrive (h.now w) d))
  make h arrived.1 arrived.2 (arrived.1.enter? (h.now arrived.2) s.phases.length)

theorem come_twins (source : SubjectSource) (c c' : Credentials) (h : s.Alike s') (d : Demand) :
    Twins (World.comparison source) Alike (come c.host d s) (come c'.host d s') := by
  have place : s.phases.length = s'.phases.length := h.phases.length_eq
  have arrives := make_twins source c c' h fun now => arrive_alike h now d
  unfold come
  rw [← place]
  exact Twins.seq Alike.refl arrives fun s₁ s₁' h₁ =>
    make_twins source c c' h₁ fun now => enter?_alike h₁ now s.phases.length

/-- The callers come. -/
theorem gather_twins (source : SubjectSource) (c c' : Credentials) (demands : List Demand)
    (h : s.Alike s') :
    Twins (World.comparison source) Alike (gather c.host demands s)
      (gather c'.host demands s') := by
  induction demands generalizing s s' with
  | nil => exact Twins.still (fun _ => rfl) fun _ _ _ alike => ⟨h, alike⟩
  | cons d rest ih =>
    have first := come_twins source c c' h d
    exact Twins.seq Alike.refl first fun s₁ s₁' h₁ => ih h₁

/-- The fetch under way comes to its end. -/
theorem finish_twins (credentials : c.Alike c') (h : s.Alike s') :
    Twins (World.comparison c.source) Alike (finish c.host s) (finish c'.host s') := by
  unfold finish
  rw [← h.holder]
  cases holder : s.holder with
  | none => exact Twins.still (fun _ => rfl) fun _ _ _ alike => ⟨h, alike⟩
  | some caller =>
    exact Twins.seq (Ended.of_eq AccessToken.Alike.refl) (Credentials.fetch_twins credentials)
      fun outcome outcome' ended => make_twins _ c c' h fun _ => settle?_alike h ended

/-- The fetch under way ends, and a caller takes the lock. -/
def proceed (h : TokenHost World) (caller : Nat) (s : Callers) (w : World) : Callers × World :=
  let finished := finish h s w
  make h finished.1 finished.2 (finished.1.enter? (h.now finished.2) caller)

theorem proceed_twins (credentials : c.Alike c') (h : s.Alike s') (caller : Nat) :
    Twins (World.comparison c.source) Alike (proceed c.host caller s)
      (proceed c'.host caller s') := by
  have finishes := finish_twins credentials h
  exact Twins.seq Alike.refl finishes fun s₁ s₁' h₁ =>
    make_twins _ c c' h₁ fun now => enter?_alike h₁ now caller

/-- The callers are served. -/
theorem drain_twins (credentials : c.Alike c') (order : List Nat) (h : s.Alike s') :
    Twins (World.comparison c.source) Alike (drain c.host order s)
      (drain c'.host order s') := by
  induction order generalizing s s' with
  | nil => exact finish_twins credentials h
  | cons caller rest ih =>
    have proceeds := proceed_twins credentials h caller
    exact Twins.seq Alike.refl proceeds fun s₁ s₁' h₁ => ih h₁

/-- **Two crowds of callers** are served alike. -/
theorem served_twins (credentials : c.Alike c') (demands : List Demand) (h : s.Alike s') :
    Twins (World.comparison c.source) Alike
      (fun w => drain c.host (List.range demands.length) (gather c.host demands s w).1
        (gather c.host demands s w).2)
      (fun w => drain c'.host (List.range demands.length) (gather c'.host demands s' w).1
        (gather c'.host demands s' w).2) :=
  Twins.seq Alike.refl (gather_twins _ c c' demands h) fun _ _ h' => drain_twins credentials _ h'

end Callers

/-! ## §4. A list of actions. -/

namespace Credentials

/-- **What can happen to a session**: what an application asks for, and what changes around it. -/
inductive Action where
  /-- A token is asked for. -/
  | obtain (d : Demand)
  /-- The headers of a request are asked for. -/
  | headers
  /-- The id of the project is asked for. -/
  | projectId
  /-- A request is made. -/
  | request (r : Request)
  /-- Several callers ask for tokens at once. -/
  | serve (callers : Nat)
  /-- A token is put in place. -/
  | install (t : AccessToken)
  /-- Somebody wants to hear of new tokens. -/
  | subscribe
  /-- A subscriber looks for news. -/
  | receive (subscription : Nat)
  /-- The files change. -/
  | files (fs : FileSystem)
  /-- The clock is adjusted. -/
  | adjust (a : Clock.Adjustment)

/-- The session afterwards. -/
def take (c : Credentials) : Action → Session → Session
  | .obtain d, s => ((c.obtain d).run s).2
  | .headers, s => (c.headers.run s).2
  | .projectId, s => (c.projectId.run s).2
  | .request r, s => ((c.request r).run s).2
  | .serve callers, s => (c.serve callers s).2
  | .install t, s => install t s
  | .subscribe, s => { s with cache.feed := s.cache.feed.subscribe.2 }
  | .receive i, s => { s with cache.feed := (s.cache.feed.receive i).2 }
  | .files fs, s => { s with world.files := fs }
  | .adjust a, s => { s with world.clock := s.world.clock.adjust a }

/-- **A run**: one action after the other. -/
def run (c : Credentials) : List Action → Session → Session
  | [], s => s
  | a :: rest, s => c.run rest (c.take a s)

/-- **Two actions differ in secrets only.** -/
inductive Action.Alike (source : SubjectSource) : Action → Action → Prop where
  /-- They do not differ. -/
  | same (a : Action) : Alike source a a
  /-- The files change in two ways. -/
  | files {fs fs' : FileSystem} (h : fs.Alike source fs') : Alike source (.files fs) (.files fs')
  /-- Two tokens are put in place. -/
  | install {t t' : AccessToken} (h : t.Alike t') : Alike source (.install t) (.install t')

/-- Two changes of a session that ask nobody. -/
theorem change_twins {f f' : Session → Session}
    (silent : ∀ s, (f s).world.network.arrived = s.world.network.arrived)
    (h : ∀ errands s s', s.Alike source errands s' → (f s).Alike source errands (f' s')) :
    Twins (Session.comparison source) (fun _ _ => True) (fun s => ((), f s)) fun s => ((), f' s) :=
  Twins.still silent fun errands s s' alike => ⟨trivial, h errands s s' alike⟩

variable {c c' : Credentials}

/-- Callers who come together to a cache, in a session that keeps what they leave of it. -/
def serveFrom (c : Credentials) (callers : Nat) (cache : TokenCache) (s : Session) :
    Unit × Session :=
  let gathered := Callers.gather c.host (List.replicate callers .current) (Callers.nobody cache)
    s.world
  let served := Callers.drain c.host (List.range (List.replicate callers Demand.current).length)
    gathered.1 gathered.2
  ((), { s with cache := served.1.cache, world := served.2 })

theorem serveFrom_twins (h : c.Alike c') (callers : Nat) {cache cache' : TokenCache}
    (caches : cache.Alike cache') :
    Twins (Session.comparison c.source) (fun _ _ => True) (c.serveFrom callers cache)
      (c'.serveFrom callers cache') := by
  intro s
  have nobody : (Callers.nobody cache).Alike (Callers.nobody cache') := ⟨caches, .nil, rfl⟩
  obtain ⟨new, arrived, twin⟩ :=
    Callers.served_twins h (List.replicate callers .current) nobody s.world
  refine ⟨new, arrived, fun later s' alike => ?_⟩
  obtain ⟨callers, world⟩ := twin later s'.world alike.world
  exact ⟨trivial, world, callers.cache, alike.projectId⟩

/-- **Callers who come together** to the cache of a session. -/
theorem serve_twins (h : c.Alike c') (callers : Nat) :
    Twins (Session.comparison c.source) (fun _ _ => True)
      (fun s => ((), (c.serve callers s).2)) fun s => ((), (c'.serve callers s).2) := by
  have looks : Twins (Session.comparison c.source) TokenCache.Alike (fun s => (s.cache, s))
      fun s => (s.cache, s) :=
    Twins.still (fun _ => rfl) fun _ _ _ alike => ⟨alike.cache, alike⟩
  have serves (cache cache' : TokenCache) (caches : cache.Alike cache') :=
    serveFrom_twins h callers caches
  have both := Twins.seq TokenCache.Alike.refl looks serves
  exact both

/-- **One action** leads two such sessions to two such sessions. -/
theorem take_twins (h : c.Alike c') {a a' : Action} (actions : a.Alike c.source a') :
    Twins (Session.comparison c.source) (fun _ _ => True)
      (fun s => ((), c.take a s)) fun s => ((), c'.take a' s) := by
  cases actions with
  | files changed =>
    exact change_twins (fun _ => rfl) fun _ _ _ alike =>
      ⟨{ alike.world with files := changed }, alike.cache, alike.projectId⟩
  | install tokens =>
    exact change_twins (fun _ => rfl) fun _ _ _ alike =>
      ⟨alike.world, ⟨alike.cache.threshold, .some tokens⟩, alike.projectId⟩
  | same =>
    cases a with
    | obtain d => exact (obtain_twins h d).forget
    | headers => exact (headers_twins h).forget
    | projectId => exact (projectId_twins h).forget
    | request r => exact (request_twins h r).forget
    | serve callers => exact serve_twins h callers
    | install t =>
      exact change_twins (fun _ => rfl) fun _ _ _ alike =>
        ⟨alike.world, ⟨alike.cache.threshold, .some (.refl t)⟩, alike.projectId⟩
    | subscribe | receive =>
      exact change_twins (fun _ => rfl) fun _ _ _ alike =>
        ⟨alike.world, ⟨alike.cache.threshold, alike.cache.stored⟩, alike.projectId⟩
    | files fs =>
      exact change_twins (fun _ => rfl) fun _ _ _ alike =>
        ⟨{ alike.world with files := .refl _ fs }, alike.cache, alike.projectId⟩
    | adjust a =>
      refine change_twins (fun _ => rfl) fun _ s s' alike =>
        ⟨{ alike.world with clock := ?_ }, alike.cache, alike.projectId⟩
      exact congrArg (Clock.adjust · a) alike.world.clock

/-- **A run** leads two such sessions to two such sessions. -/
theorem run_twins (h : c.Alike c') {actions actions' : List Action}
    (alike : List.Forall₂ (Action.Alike c.source) actions actions') :
    Twins (Session.comparison c.source) (fun _ _ => True)
      (fun s => ((), c.run actions s)) fun s => ((), c'.run actions' s) := by
  induction alike with
  | nil => exact change_twins (fun _ => rfl) fun _ _ _ alike => alike
  | cons first _ ih =>
    have takes := take_twins h first
    exact Twins.seq (fun _ => trivial) takes fun _ _ _ => ih

end Credentials

end WorkloadIdentity
