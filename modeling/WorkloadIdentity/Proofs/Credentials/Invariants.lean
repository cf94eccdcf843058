/-
  WorkloadIdentity.Proofs.Credentials.Invariants ──── **WHAT EVERY ERRAND KEEPS, EVERY RUN KEEPS.**

  A session does few things to the world: it logs, it fetches a token, it asks for the id of the
  project, and it sends what the application sends.  Around it the files and the clock may change.
  What is kept by each of these on its own is kept by everything that an application can do, one
  caller after another or many of them together.

  Main results:
    * `World.Stable.fetch`, `World.Stable.lookup` — what every sending keeps is kept by both
    * `Credentials.Upholds` — an invariant of the session, for one caller at a time
    * `Credentials.Keeps` — an invariant of the world, errand by errand
    * `Credentials.Keeps.take`, `Credentials.Keeps.run` — it is kept by every action and every run
    * `Credentials.Confines.run` — what is true of all that is sent is true of all that arrives
-/
import WorkloadIdentity.Proofs.Log.Sessions

namespace WorkloadIdentity

/-! ## §1. Actions one after another. -/

/-- An action keeps an invariant, whether it fails or not. -/
def RunKeeps {σ α : Type} (I : σ → Prop) (x : ExceptT AuthError (StateM σ) α) : Prop :=
  ∀ s, I s → I (x.run s).2

section Actions

variable {σ α β : Type} {I : σ → Prop}

theorem RunKeeps.pure (a : α) : RunKeeps I (pure a : ExceptT AuthError (StateM σ) α) :=
  fun _ kept => kept

theorem RunKeeps.throw (e : AuthError) :
    RunKeeps I (throw e : ExceptT AuthError (StateM σ) α) := fun _ kept => kept

/-- After a failure there is nothing more to keep. -/
theorem RunKeeps.bind {x : ExceptT AuthError (StateM σ) α}
    {f : α → ExceptT AuthError (StateM σ) β} (first : RunKeeps I x)
    (next : ∀ a, RunKeeps I (f a)) : RunKeeps I (x >>= f) := by
  intro s kept
  rcases ran : x.run s with ⟨result, mid⟩
  have there : I mid := by
    have := first s kept
    rwa [ran] at this
  cases result with
  | error e =>
    rw [run_bind_error ran]
    exact there
  | ok a =>
    rw [run_bind_ok ran]
    exact next a mid there

end Actions

/-! ## §2. What is kept by all that is sent. -/

/-- **An invariant is stable**: whatever is sent, it stays; so it does when the application has been
asked for a subject token, and when something is logged, unless it is that a fetch begins. -/
structure World.Stable (I : World → Prop) : Prop where
  /-- Something is sent. -/
  sent : ∀ w errand r, I w → I { w with network := (w.network.send errand r).2 }
  /-- The application has been asked. -/
  subjects : ∀ w, I w → I { w with subjects := w.subjects.drop 1 }
  /-- Something is logged. -/
  note : ∀ w r, r ≠ TokenCache.fetchRecord → I w → I (w.note r)

namespace World.Stable

variable {I : World → Prop}

theorem lift {α : Type} (r : Except AuthError α) : RunKeeps I (Act.lift r) := by
  intro w kept
  rw [Act.run_lift]
  exact kept

theorem log (stable : Stable I) {r : LogRecord} (other : r ≠ TokenCache.fetchRecord) :
    RunKeeps I (Act.note r) := fun w kept => stable.note w r other kept

theorem send (stable : Stable I) (errand : Errand) (r : Request) :
    RunKeeps I (Act.send errand r) := by
  intro w kept
  rw [Act.run_send]
  exact stable.sent w errand r kept

theorem exchange (stable : Stable I) (errand : Errand) (method url : String) (headers : Headers)
    (body : Body) : RunKeeps I (Act.exchange errand method url headers body) := by
  unfold Act.exchange
  cases Act.prepare method url headers body with
  | error e => exact RunKeeps.throw _
  | ok request =>
    refine RunKeeps.bind (stable.send errand request) fun response => ?_
    cases response.read with
    | error e => exact RunKeeps.throw _
    | ok raw => exact RunKeeps.pure raw

theorem call (stable : Stable I) (errand : Errand) (method url : String) (headers : Headers)
    (body : Body) : RunKeeps I (Act.call errand method url headers body) := by
  refine RunKeeps.bind (stable.exchange errand method url headers body) fun raw => ?_
  split
  · exact RunKeeps.pure raw
  · exact RunKeeps.throw _

/-- A record with another message is another record. -/
theorem other_record {message : String} {fields : List (String × String)}
    (other : message ≠ "refreshing access token") :
    LogRecord.debug message fields ≠ TokenCache.fetchRecord :=
  fun same => other (congrArg LogRecord.message same)

theorem retrieve (stable : Stable I) (source : SubjectSource) : RunKeeps I source.retrieve := by
  cases source with
  | file path format =>
    refine RunKeeps.bind (fun w kept => ?_) fun _ => lift _
    rw [SubjectSource.run_readFile]
    cases SubjectSource.content w.files path with
    | error e => exact kept
    | ok text => exact stable.note w _ (other_record (by decide)) kept
  | url address headers format =>
    have noted {α : Type} (x : Act α) (h : RunKeeps I x) :
        RunKeeps I (Act.note (.debug "fetched subject token" [("url", address)]) >>= fun _ => x) :=
      RunKeeps.bind (stable.log (other_record (by decide))) fun _ => h
    refine RunKeeps.bind ?_ fun _ => lift _
    refine RunKeeps.bind (stable.exchange _ _ _ _ _) fun raw => ?_
    split
    · exact RunKeeps.bind (RunKeeps.throw _) fun _ => noted _ (RunKeeps.pure _)
    · exact noted _ (RunKeeps.pure _)
  | application =>
    intro w kept
    show I (SubjectSource.askApplication.run w).2
    rw [SubjectSource.run_askApplication]
    exact stable.subjects w kept

/-- **A fetch keeps it**, wherever the subject token comes from. -/
theorem fetch (stable : Stable I) (c : Credentials) : RunKeeps I c.fetch := by
  refine RunKeeps.bind (stable.retrieve c.source) fun s => ?_
  have trades : RunKeeps I (c.sts.exchange (c.form s) Headers.empty) :=
    RunKeeps.bind (lift _) fun _ => RunKeeps.bind (stable.call _ _ _ _ _) fun _ =>
      RunKeeps.bind (lift _) fun _ => RunKeeps.pure _
  refine RunKeeps.bind trades fun answer => ?_
  cases c.impersonationUrl with
  | none => exact RunKeeps.bind (fun _ kept => kept) fun _ => RunKeeps.pure _
  | some url =>
    exact RunKeeps.bind (lift _) fun _ => RunKeeps.bind (stable.call _ _ _ _ _) fun _ =>
      RunKeeps.bind (lift _) fun _ => lift _

/-- **So does a lookup.** -/
theorem lookup (stable : Stable I) (baseUrl number : String) (h : Headers) :
    RunKeeps I (Project.lookup baseUrl number h) :=
  RunKeeps.bind (stable.call _ _ _ _ _) fun _ => RunKeeps.bind (lift _) fun _ =>
    RunKeeps.bind (stable.log (other_record (by decide))) fun _ => RunKeeps.pure _

end World.Stable

/-! ## §3. Errands. -/

/-- **Credentials keep an invariant of the world**: whatever they do to it does, and so does what
happens around them. -/
structure Credentials.Keeps (c : Credentials) (I : World → Prop) : Prop where
  /-- Something is logged. -/
  note : ∀ r w, I w → I (w.note r)
  /-- A token is fetched. -/
  fetch : RunKeeps I c.fetch
  /-- The id of the project is asked for. -/
  lookup : ∀ number headers, RunKeeps I (Project.lookup c.projectsUrl number headers)
  /-- The application's own request is sent. -/
  send : ∀ r, RunKeeps I (Act.send .target r)
  /-- The files change. -/
  files : ∀ fs w, I w → I { w with files := fs }
  /-- The clock is adjusted. -/
  clock : ∀ clock w, I w → I { w with clock := clock }

/-! ## §4. One caller at a time. -/

/-- A usable token is at hand and will do, or one has to be fetched. -/
theorem Session.hit_or_stale (s : Session) (d : Demand) :
    (∃ t, d = .current ∧ s.cache.usable? s.world.clock.now = some t) ∨
      (d = .current → s.cache.usable? s.world.clock.now = none) := by
  cases d with
  | fresh => exact .inr nofun
  | current =>
    cases found : s.cache.usable? s.world.clock.now with
    | none => exact .inr fun _ => rfl
    | some t => exact .inl ⟨t, rfl, rfl⟩

/-- Without a number there is nothing to ask for. -/
theorem Credentials.projectId_of_none {c : Credentials} (number : c.projectNumber = none) :
    c.projectId = pure none := by
  unfold Credentials.projectId
  rw [number]

/-- **Credentials uphold an invariant of the session**: each of the things that one caller has them
do leaves it as it is. -/
structure Credentials.Upholds (c : Credentials) (I : Session → Prop) : Prop where
  /-- A token is obtained. -/
  obtain : ∀ d, RunKeeps I (c.obtain d)
  /-- Something is logged. -/
  note : ∀ r, RunKeeps I (Use.outside (Act.note r))
  /-- The id of the project is asked for. -/
  lookup : ∀ number headers,
    RunKeeps I (Use.outside (Project.lookup c.projectsUrl number headers))
  /-- The application's own request is sent. -/
  send : ∀ r, RunKeeps I (Use.outside (Act.send .target r))
  /-- The id of the project is known. -/
  known : ∀ id s, I s → I { s with projectId := some id }

namespace Credentials.Upholds

variable {c : Credentials} {I : Session → Prop}

theorem headers (upholds : c.Upholds I) : RunKeeps I c.headers := by
  refine RunKeeps.bind (upholds.obtain .current) fun t => ?_
  split
  · exact RunKeeps.pure _
  · exact RunKeeps.throw _

theorem sendWithToken (upholds : c.Upholds I) (r : Request) : RunKeeps I (c.sendWithToken r) :=
  RunKeeps.bind upholds.headers fun _ => upholds.send _

/-- Telling the caller of a response does nothing. -/
theorem told (response : Response) :
    RunKeeps I (match successful response with
      | .ok first => return first
      | .error e => throw e : Use Response) := by
  cases successful response with
  | ok first => exact RunKeeps.pure first
  | error e => exact RunKeeps.throw e

theorem request (upholds : c.Upholds I) (r : Request) : RunKeeps I (c.request r) := by
  refine RunKeeps.bind (upholds.sendWithToken r) fun response => ?_
  dsimp only
  split
  · split
    · refine RunKeeps.bind (upholds.note _) fun _ => ?_
      refine RunKeeps.bind (upholds.obtain .fresh) fun _ => ?_
      exact RunKeeps.bind (upholds.sendWithToken _) fun second => told second
    · exact told response
  · exact told response

theorem projectId (upholds : c.Upholds I) : RunKeeps I c.projectId := by
  cases number : c.projectNumber with
  | none =>
    rw [projectId_of_none number]
    exact RunKeeps.pure none
  | some number' =>
    rw [projectId_of_number number]
    refine RunKeeps.bind (fun _ kept => kept) fun s => ?_
    cases s.projectId with
    | some known => exact RunKeeps.pure (some known)
    | none =>
      refine RunKeeps.bind upholds.headers fun h => ?_
      refine RunKeeps.bind (upholds.lookup number' h) fun found => ?_
      exact RunKeeps.bind (fun s kept => upholds.known found s kept) fun _ =>
        RunKeeps.pure (some found)

end Credentials.Upholds

namespace Credentials.Keeps

variable {c : Credentials} {I : World → Prop}

/-- An action on the world does to the session what it does to its world. -/
theorem outside {α : Type} {act : Act α} (h : RunKeeps I act) :
    RunKeeps (fun s : Session => I s.world) (Use.outside act) := by
  intro s kept
  rw [run_outside]
  exact h s.world kept

theorem obtain_keeps (keeps : c.Keeps I) (d : Demand) :
    RunKeeps (fun s : Session => I s.world) (c.obtain d) := by
  intro s kept
  rcases s.hit_or_stale d with ⟨t, rfl, hit⟩ | stale
  · rw [run_obtain_hit c hit]
    exact keeps.note _ _ kept
  · rw [run_obtain_fetch c stale]
    exact keeps.note _ _ (keeps.fetch _ (keeps.note _ _ kept))

/-- **What is kept of the world is upheld in a session.** -/
theorem upholds (keeps : c.Keeps I) : c.Upholds fun s => I s.world where
  obtain := keeps.obtain_keeps
  note r := outside fun w => keeps.note r w
  lookup number headers := outside (keeps.lookup number headers)
  send r := outside (keeps.send r)
  known _ _ kept := kept

/-! ## §5. Callers who come together. -/

theorem noteAll (keeps : c.Keeps I) (records : List LogRecord) {w : World} (kept : I w) :
    I (Callers.noteAll c.host records w) := by
  induction records generalizing w with
  | nil => exact kept
  | cons r _ ih => exact ih (keeps.note r w kept)

theorem make (keeps : c.Keeps I) (s : Callers) (step : Option Callers.Step) {w : World}
    (kept : I w) : I (Callers.make c.host s w step).2 := by
  cases step with
  | none => exact kept
  | some next => exact keeps.noteAll next.2 kept

theorem gather (keeps : c.Keeps I) (demands : List Demand) (s : Callers) {w : World}
    (kept : I w) : I (Callers.gather c.host demands s w).2 := by
  induction demands generalizing s w with
  | nil => exact kept
  | cons d rest ih =>
    have came : I (Callers.come c.host d s w).2 := keeps.make _ _ (keeps.make _ _ kept)
    exact ih _ came

theorem finish (keeps : c.Keeps I) (s : Callers) {w : World} (kept : I w) :
    I (Callers.finish c.host s w).2 := by
  unfold Callers.finish
  cases s.holder with
  | none => exact kept
  | some caller => exact keeps.make _ _ (keeps.fetch w kept)

theorem drain (keeps : c.Keeps I) (order : List Nat) (s : Callers) {w : World} (kept : I w) :
    I (Callers.drain c.host order s w).2 := by
  induction order generalizing s w with
  | nil => exact keeps.finish s kept
  | cons caller rest ih =>
    have proceeded : I (Callers.proceed c.host caller s w).2 :=
      keeps.make _ _ (keeps.finish s kept)
    exact ih _ proceeded

/-! ## §6. Runs. -/

/-- **One action keeps it.** -/
theorem take (keeps : c.Keeps I) (a : Action) {s : Session} (kept : I s.world) :
    I (c.take a s).world := by
  cases a with
  | obtain d => exact keeps.upholds.obtain d s kept
  | headers => exact keeps.upholds.headers s kept
  | projectId => exact keeps.upholds.projectId s kept
  | request r => exact keeps.upholds.request r s kept
  | serve callers => exact keeps.drain _ _ (keeps.gather _ _ kept)
  | install | subscribe | receive => exact kept
  | files fs => exact keeps.files fs _ kept
  | adjust a => exact keeps.clock _ _ kept

/-- **So does every run.** -/
theorem run (keeps : c.Keeps I) (actions : List Action) {s : Session} (kept : I s.world) :
    I (c.run actions s).world := by
  induction actions generalizing s with
  | nil => exact kept
  | cons a rest ih => exact ih (keeps.take a kept)

end Credentials.Keeps

/-! ## §7. All that arrives in a run. -/

/-- All that has arrived since is of one kind. -/
def World.Since (P : Arrival → Prop) (start w : World) : Prop :=
  ∃ new : List Arrival, w.network.arrived = new.reverse ++ start.network.arrived ∧ ∀ a ∈ new, P a

theorem World.Since.receive {P : Arrival → Prop} {start w next : World} {new : List Arrival}
    (since : Since P start w) (received : World.Received new w next) (each : ∀ a ∈ new, P a) :
    Since P start next := by
  obtain ⟨before, arrived, all⟩ := since
  refine ⟨before ++ new, ?_, List.forall_mem_append.mpr ⟨all, each⟩⟩
  rw [received.arrived, arrived, List.reverse_append, List.append_assoc]

/-- An action sends only what is of one kind. -/
def Act.Sends {α : Type} (P : Arrival → Prop) (act : Act α) : Prop :=
  ∀ w, ∃ new, World.Received new w (act.run w).2 ∧ ∀ a ∈ new, P a

theorem Act.Sends.bind {α β : Type} {P : Arrival → Prop} {x : Act α} {f : α → Act β}
    (first : Sends P x) (next : ∀ a, Sends P (f a)) : Sends P (x >>= f) := by
  intro w
  obtain ⟨new, received, each⟩ := first w
  rcases ran : x.run w with ⟨result, mid⟩
  rw [ran] at received
  cases result with
  | error e =>
    rw [run_bind_error ran]
    exact ⟨new, received, each⟩
  | ok a =>
    obtain ⟨more, received', each'⟩ := next a mid
    rw [run_bind_ok ran]
    exact ⟨new ++ more, received.trans received', List.forall_mem_append.mpr ⟨each, each'⟩⟩

/-- If all that can be sent for the errands of a plan is of one kind, so is what is sent. -/
theorem Act.Follows.sends {α : Type} {P : Arrival → Prop} {plan : List Errand} {act : Act α}
    (follows : act.Follows plan) (any : ∀ a : Arrival, a.errand ∈ plan → P a) : act.Sends P := by
  intro w
  obtain ⟨new, received, beginning, -⟩ := follows w
  exact ⟨new, received, fun a member => any a (beginning.subset (List.mem_map_of_mem member))⟩

/-- Credentials send only what is of one kind, for each of their errands. -/
structure Credentials.Confines (c : Credentials) (P : Arrival → Prop) : Prop where
  /-- For a token. -/
  fetch : Act.Sends P c.fetch
  /-- For the id of a project. -/
  lookup : ∀ number headers, Act.Sends P (Project.lookup c.projectsUrl number headers)
  /-- For the application. -/
  send : ∀ r, Act.Sends P (Act.send .target r)

/-- **What is true of all that is sent is true of all that arrives**, whatever is done with the
credentials. -/
theorem Credentials.Confines.run {c : Credentials} {P : Arrival → Prop} (confines : c.Confines P)
    (actions : List Action) (s : Session) : ∀ a ∈ s.arrivals (c.run actions s), P a := by
  have keep {α : Type} {act : Act α} (sends : Act.Sends P act) :
      RunKeeps (World.Since P s.world) act := by
    intro w since
    obtain ⟨new, received, each⟩ := sends w
    exact since.receive received each
  have keeps : c.Keeps (World.Since P s.world) :=
    { note := fun _ _ since => since
      fetch := keep confines.fetch
      lookup := fun number headers => keep (confines.lookup number headers)
      send := fun r => keep (confines.send r)
      files := fun _ _ since => since
      clock := fun _ _ since => since }
  have start : World.Since P s.world s.world := ⟨[], rfl, List.forall_mem_nil _⟩
  obtain ⟨new, arrived, each⟩ := keeps.run actions start
  rw [Session.arrivals_eq arrived]
  exact each

end WorkloadIdentity
