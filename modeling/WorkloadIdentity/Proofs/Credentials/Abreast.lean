/-
  WorkloadIdentity.Proofs.Credentials.Abreast ──── **TWO SESSIONS THAT DIFFER IN THEIR SOURCE ONLY.**

  The one retrieves its subject tokens from a file or a URL, the other is brought them by the
  application.  They stay abreast: the second has the clock, the cache and the project of the first,
  its application has the tokens to bring that the first is going to retrieve, and its servers have
  the replies in store that the first is going to be given, without those that bring subject tokens.

  What is still to come is part of the comparison.  So the errands of all that arrives in the first
  session, and the tokens that are retrieved there, are taken off as they come up, the first ones
  first; what is left is compared along the rest of the run.

  Main results:
    * `RunMirrors.bind`            — two actions after two others
    * `SubjectSource.retrieve_mirrors`, `Credentials.fetch_mirrors` — a retrieval, and a fetch
    * `Credentials.take_mirrors`   — a call
-/
import WorkloadIdentity.Proofs.Credentials.Retrievals

namespace WorkloadIdentity

/-! ## §1. What is compared. -/

/-- The replies without those to requests for subject tokens, by the errands of the requests that
take them. -/
def repliesToOthers : List Errand → List Reply → List Reply
  | [], script => script
  | _ :: _, [] => []
  | errand :: errands, reply :: script =>
    if errand = .subjectToken then repliesToOthers errands script
    else reply :: repliesToOthers errands script

/-- The arrivals without the requests for subject tokens. -/
def others (arrivals : List Arrival) : List Arrival :=
  arrivals.filter (·.errand ≠ .subjectToken)

/-- **Two worlds are abreast**, by the errands and the subject tokens that are to come. -/
structure World.Abreast (errands : List Errand) (tokens : List String) (w w' : World) :
    Prop where
  /-- Whether somebody listens. -/
  listening : w'.network.listening = w.network.listening
  /-- The replies in store. -/
  script : w'.network.script = repliesToOthers errands w.network.script
  /-- The clock. -/
  clock : w'.clock = w.clock
  /-- What the application has to bring. -/
  subjects : tokens.map SubjectReply.token <+: w'.subjects

/-- **Two sessions are abreast.** -/
structure Session.Abreast (errands : List Errand) (tokens : List String) (s s' : Session) :
    Prop where
  /-- The worlds. -/
  world : s.world.Abreast errands tokens s'.world
  /-- The cached token, and all that was announced. -/
  cache : s'.cache = s.cache
  /-- The id of the project. -/
  projectId : s'.projectId = s.projectId

/-- How two states are compared. -/
structure Pairing (σ : Type) where
  /-- The requests that arrived, the last one first. -/
  arrived : σ → List Arrival
  /-- Whether they are abreast. -/
  abreast : List Errand → List String → σ → σ → Prop

/-- **The second function mirrors the first**, which retrieves what a trace tells: if these are
tokens, and the states are abreast, it has the same result, all that arrives by the first arrives by
it but the requests for subject tokens, and the states are abreast again. -/
def Mirrors {σ β : Type} (m : Pairing σ) (trace : Trace σ) (g g' : σ → β × σ) : Prop :=
  ∀ s, ∃ new : List Arrival, m.arrived (g s).2 = new.reverse ++ m.arrived s ∧
    ∀ tokens errands later s', trace s = tokens.map .ok →
      m.abreast (new.map (·.errand) ++ errands) (tokens ++ later) s s' →
        (g' s').1 = (g s).1 ∧ m.abreast errands later (g s).2 (g' s').2 ∧
          m.arrived (g' s').2 = (others new).reverse ++ m.arrived s'

/-- An action mirrors another. -/
def RunMirrors {σ α : Type} (m : Pairing σ) (trace : Trace σ)
    (x x' : ExceptT AuthError (StateM σ) α) : Prop :=
  Mirrors m trace (fun s => x.run s) fun s => x'.run s

section Rules

open Trace

variable {σ α β γ κ : Type} {m : Pairing σ} {trace : Trace σ}

/-- Nothing is left of a retrieval. -/
theorem others_subjects {new : List Arrival} (each : ∀ e ∈ new.map (·.errand), e = .subjectToken) :
    others new = [] := by
  refine List.filter_eq_nil_iff.mpr fun a member => ?_
  simp [each _ (List.mem_map_of_mem member)]

theorem others_append (new more : List Arrival) : others (new ++ more) = others new ++ others more :=
  List.filter_append new more

/-- Functions that nothing arrives by and nothing is retrieved for. -/
theorem Mirrors.still {g g' : σ → β × σ} (silent : ∀ s, m.arrived (g s).2 = m.arrived s)
    (silent' : ∀ s, m.arrived (g' s).2 = m.arrived s)
    (h : ∀ errands tokens s s', m.abreast errands tokens s s' →
      (g' s').1 = (g s).1 ∧ m.abreast errands tokens (g s).2 (g' s').2) :
    Mirrors m nothing g g' := by
  refine fun s => ⟨[], silent s, fun tokens errands later s' drawn abreast => ?_⟩
  cases List.map_eq_nil_iff.mp drawn.symm
  obtain ⟨same, abreast⟩ := h errands later s s' abreast
  exact ⟨same, abreast, silent' s'⟩

/-- Something is made of the result. -/
theorem Mirrors.map {g g' : σ → β × σ} (h : Mirrors m trace g g') (f : β → γ) :
    Mirrors m trace (fun s => (f (g s).1, (g s).2)) fun s => (f (g' s).1, (g' s).2) := by
  intro s
  obtain ⟨new, arrived, mirror⟩ := h s
  refine ⟨new, arrived, fun tokens errands later s' drawn abreast => ?_⟩
  obtain ⟨same, rest⟩ := mirror tokens errands later s' drawn abreast
  exact ⟨congrArg f same, rest⟩

theorem RunMirrors.pure (a : α) : RunMirrors m nothing (pure a) (pure a) :=
  Mirrors.still (fun _ => rfl) (fun _ => rfl) fun _ _ _ _ abreast => ⟨rfl, abreast⟩

theorem RunMirrors.throw (e : AuthError) :
    RunMirrors m nothing (throw e : ExceptT AuthError (StateM σ) α) (throw e) :=
  Mirrors.still (fun _ => rfl) (fun _ => rfl) fun _ _ _ _ abreast => ⟨rfl, abreast⟩

variable {x x' : ExceptT AuthError (StateM σ) α} {f f' : α → ExceptT AuthError (StateM σ) β}

/-- **One action after the other.** -/
theorem RunMirrors.bind {later : α → Trace σ} (first : RunMirrors m trace x x')
    (next : ∀ a, RunMirrors m (later a) (f a) (f' a)) :
    RunMirrors m (trace.andThen x later) (x >>= f) (x' >>= f') := by
  intro s
  obtain ⟨new, arrived, mirror⟩ := first s
  dsimp only at arrived mirror ⊢
  rcases ran : x.run s with ⟨result, mid⟩
  rw [ran] at arrived mirror
  cases result with
  | error e =>
    rw [run_bind_error ran, andThen_error ran]
    refine ⟨new, arrived, fun tokens errands after s' drawn abreast => ?_⟩
    obtain ⟨same, abreast, arrived⟩ := mirror tokens errands after s' drawn abreast
    have ran' : x'.run s' = (.error e, (x'.run s').2) := Prod.ext same rfl
    rw [run_bind_error ran']
    exact ⟨rfl, abreast, arrived⟩
  | ok a =>
    obtain ⟨more, arrived', mirror'⟩ := next a mid
    dsimp only at arrived' mirror'
    rw [run_bind_ok ran, andThen_ok ran]
    refine ⟨new ++ more, ?_, fun tokens errands after s' drawn abreast => ?_⟩
    · rw [arrived', arrived, List.reverse_append, List.append_assoc]
    · -- the tokens of the first action come first, and so do its errands
      obtain ⟨first, second, rfl, drawn, drawn'⟩ := List.append_eq_map_iff.mp drawn
      rw [List.map_append, List.append_assoc, List.append_assoc] at abreast
      obtain ⟨same, abreast, arrived⟩ := mirror first _ _ s' drawn.symm abreast
      have ran' : x'.run s' = (.ok a, (x'.run s').2) := Prod.ext same rfl
      obtain ⟨same, abreast, arrived'⟩ := mirror' second errands after _ drawn'.symm abreast
      rw [run_bind_ok ran']
      refine ⟨same, abreast, ?_⟩
      rw [arrived', arrived, others_append, List.reverse_append, List.append_assoc]

/-- What follows retrieves nothing. -/
theorem RunMirrors.last (first : RunMirrors m trace x x')
    (next : ∀ a, RunMirrors m nothing (f a) (f' a)) :
    RunMirrors m trace (x >>= f) (x' >>= f') := by
  have both := RunMirrors.bind first next
  rw [andThen_nothing] at both
  exact both

/-- Actions that look at the state for something that is the same in both. -/
theorem RunMirrors.look (key : σ → κ) {traces : κ → Trace σ}
    {body body' : κ → ExceptT AuthError (StateM σ) α}
    (same : ∀ errands tokens s s', m.abreast errands tokens s s' → key s' = key s)
    (h : ∀ k, RunMirrors m (traces k) (body k) (body' k)) :
    RunMirrors m (fun s => traces (key s) s) (getThe σ >>= fun s => body (key s))
      (getThe σ >>= fun s => body' (key s)) := by
  intro s
  have looked (s : σ) : (getThe σ : ExceptT AuthError (StateM σ) σ).run s = (.ok s, s) := rfl
  obtain ⟨new, arrived, mirror⟩ := h (key s) s
  dsimp only at arrived mirror ⊢
  rw [run_bind_ok (looked s)]
  refine ⟨new, arrived, fun tokens errands later s' drawn abreast => ?_⟩
  rw [run_bind_ok (looked s'), same _ _ s s' abreast]
  exact mirror tokens errands later s' drawn abreast

end Rules

/-! ## §2. Requests. -/

/-- How worlds are compared. -/
def World.pairing : Pairing World := ⟨fun w => w.network.arrived, World.Abreast⟩

theorem World.Abreast.note {errands : List Errand} {tokens : List String} {w w' : World}
    (h : w.Abreast errands tokens w') (r r' : LogRecord) :
    (w.note r).Abreast errands tokens (w'.note r') := ⟨h.listening, h.script, h.clock, h.subjects⟩

section Replies

variable {errand : Errand} {errands : List Errand} {script : List Reply}

theorem repliesToOthers_nil (errands : List Errand) : repliesToOthers errands [] = [] := by
  cases errands <;> rfl

/-- The next reply is the same, and so are those after it. -/
theorem repliesToOthers_other (other : errand ≠ .subjectToken) (errands : List Errand)
    (script : List Reply) :
    (repliesToOthers (errand :: errands) script).head? = script.head? ∧
      (repliesToOthers (errand :: errands) script).tail = repliesToOthers errands script.tail := by
  cases script with
  | nil => exact ⟨rfl, (repliesToOthers_nil errands).symm⟩
  | cons reply rest =>
    have kept : repliesToOthers (errand :: errands) (reply :: rest)
        = reply :: repliesToOthers errands rest := if_neg other
    rw [kept]
    exact ⟨rfl, rfl⟩

/-- Replies to requests for subject tokens are left out. -/
theorem repliesToOthers_subjects {plan : List Errand} (each : ∀ e ∈ plan, e = .subjectToken) :
    repliesToOthers (plan ++ errands) script
      = repliesToOthers errands (script.drop plan.length) := by
  induction plan generalizing script with
  | nil => rfl
  | cons e plan ih =>
    have later := fun e he => each e (List.mem_cons_of_mem _ he)
    cases script with
    | nil => exact (repliesToOthers_nil _).trans (repliesToOthers_nil _).symm
    | cons reply rest =>
      rw [List.cons_append, repliesToOthers, if_pos (each e List.mem_cons_self), ih later]
      rfl

end Replies

namespace Act

open Trace

/-- Two actions on the world. -/
abbrev ActMirrors {α : Type} (trace : Trace World) (x x' : Act α) : Prop :=
  RunMirrors World.pairing trace x x'

variable {errand : Errand}

theorem lift_mirrors {α : Type} (r : Except AuthError α) :
    ActMirrors nothing (lift r) (lift r) := by
  cases r with
  | ok a => exact RunMirrors.pure a
  | error e => exact RunMirrors.throw e

theorem note_mirrors (r : LogRecord) : ActMirrors nothing (note r) (note r) :=
  Mirrors.still (fun _ => rfl) (fun _ => rfl) fun _ _ _ _ abreast => ⟨rfl, abreast.note r r⟩

/-- **A request of any other errand** meets the same reply. -/
theorem send_mirrors (other : errand ≠ .subjectToken) (r : Request) :
    ActMirrors nothing (send errand r) (send errand r) := by
  intro w
  simp only [run_send_told]
  have kept : [(⟨errand, r⟩ : Arrival)].filter (·.errand ≠ .subjectToken) = [⟨errand, r⟩] := by
    simp [other]
  cases http : r.url.isHttp with
  | false =>
    rw [Network.send_unusable http]
    refine ⟨[], rfl, fun tokens errands later w' drawn abreast => ?_⟩
    cases List.map_eq_nil_iff.mp drawn.symm
    rw [Network.send_unusable http]
    exact ⟨rfl, abreast, rfl⟩
  | true =>
    cases listening : w.network.listening with
    | false =>
      rw [Network.send_unheard http listening]
      refine ⟨[], rfl, fun tokens errands later w' drawn abreast => ?_⟩
      cases List.map_eq_nil_iff.mp drawn.symm
      rw [Network.send_unheard http (abreast.listening.trans listening)]
      exact ⟨rfl, abreast, rfl⟩
    | true =>
      rw [Network.send_heard http listening]
      refine ⟨[⟨errand, r⟩], rfl, fun tokens errands later w' drawn abreast => ?_⟩
      cases List.map_eq_nil_iff.mp drawn.symm
      obtain ⟨head, tail⟩ := repliesToOthers_other other errands w.network.script
      have script : w'.network.script = repliesToOthers (errand :: errands) w.network.script :=
        abreast.script
      rw [Network.send_heard http (abreast.listening.trans listening), script, head, tail]
      -- the reply is used up in both stores, and the request stays among the others
      refine ⟨rfl, ⟨abreast.listening, rfl, abreast.clock, abreast.subjects⟩, ?_⟩
      show ⟨errand, r⟩ :: w'.network.arrived = (others [⟨errand, r⟩]).reverse ++ _
      rw [others, kept]
      rfl

theorem call_mirrors (other : errand ≠ .subjectToken) (method url : String) (headers : Headers)
    (body : Body) :
    ActMirrors nothing (call errand method url headers body)
      (call errand method url headers body) := by
  have exchange : ActMirrors nothing (exchange errand method url headers body)
      (exchange errand method url headers body) := by
    unfold Act.exchange
    cases prepare method url headers body with
    | error e => exact RunMirrors.throw _
    | ok request =>
      refine RunMirrors.last (send_mirrors other request) fun response => ?_
      cases response.read with
      | error e => exact RunMirrors.throw _
      | ok raw => exact RunMirrors.pure raw
  refine RunMirrors.last exchange fun raw => ?_
  split
  · exact RunMirrors.pure raw
  · exact RunMirrors.throw _

/-- The clocks stand at the same instant. -/
theorem now_mirrors : ActMirrors nothing now now :=
  RunMirrors.look (m := World.pairing) (fun w : World => w.clock.now)
    (fun _ _ _ _ abreast => congrArg Clock.now abreast.clock) fun now => RunMirrors.pure now

end Act

/-! ## §3. Retrievals. -/

namespace SubjectSource

theorem eq_subjectToken_of_plan {source : SubjectSource} {e : Errand} (h : e ∈ source.plan) :
    e = .subjectToken := by
  cases source with
  | url => exact List.mem_singleton.mp h
  | file | application => cases h

/-- As many replies are taken as requests arrive. -/
theorem stable_script (start : World) : World.Stable fun w => ∃ new : List Arrival,
    w.network.arrived = new ++ start.network.arrived ∧
      w.network.script = start.network.script.drop new.length where
  subjects _ kept := kept
  note _ _ _ kept := kept
  sent w errand r kept := by
    obtain ⟨new, arrived, script⟩ := kept
    cases http : r.url.isHttp with
    | false =>
      rw [Network.send_unusable http]
      exact ⟨new, arrived, script⟩
    | true =>
      cases listening : w.network.listening with
      | false =>
        rw [Network.send_unheard http listening]
        exact ⟨new, arrived, script⟩
      | true =>
        rw [Network.send_heard http listening]
        refine ⟨⟨errand, r⟩ :: new, congrArg (_ :: ·) arrived, ?_⟩
        show w.network.script.tail = _
        rw [script, List.tail_drop, List.length_cons]

/-- **The application brings what is retrieved**, and the requests and replies of the retrieval are
left out. -/
theorem retrieve_mirrors (source : SubjectSource) :
    Act.ActMirrors (fun w => [(source.retrieve.run w).1]) source.retrieve askApplication := by
  intro w
  obtain ⟨new, received, -, whole⟩ := source.retrieve_follows w
  obtain ⟨taken, arrived, script⟩ :=
    (stable_script w).retrieve source w ⟨[], rfl, rfl⟩
  -- what has taken replies is what has arrived
  cases List.append_cancel_right (arrived.symm.trans received.arrived)
  rw [List.length_reverse] at script
  refine ⟨new, received.arrived, fun tokens errands later w' drawn abreast => ?_⟩
  obtain ⟨t, rfl, brought⟩ := List.map_eq_singleton_iff.mp drawn.symm
  have each : ∀ e ∈ new.map (·.errand), e = .subjectToken := fun e member =>
    eq_subjectToken_of_plan (whole t brought.symm ▸ member)
  obtain ⟨more, store⟩ := abreast.subjects
  have next : w'.subjects = .token t :: (later.map .token ++ more) := store.symm
  dsimp only
  rw [run_askApplication, next, others_subjects each]
  refine ⟨brought, ⟨?_, ?_, ?_, ⟨more, rfl⟩⟩, rfl⟩
  · exact abreast.listening.trans received.listening.symm
  · have left := abreast.script
    rw [repliesToOthers_subjects each, List.length_map] at left
    rw [script]
    exact left
  · exact abreast.clock.trans received.clock.symm

end SubjectSource

/-! ## §4. Fetches. -/

/-- The same credentials of an application that brings its own subject tokens. -/
def Credentials.counterpart (c : Credentials) : Credentials := { c with source := .application }

namespace Credentials

open Trace

variable (c : Credentials)

/-- **A fetch of the counterpart** mirrors a fetch: where the subject token came from makes no
difference to what follows. -/
theorem fetch_mirrors :
    Act.ActMirrors (fun w => [(c.source.retrieve.run w).1]) c.fetch c.counterpart.fetch := by
  refine RunMirrors.last c.source.retrieve_mirrors fun s => ?_
  have trades : Act.ActMirrors nothing (c.sts.exchange (c.form s) Headers.empty)
      (c.sts.exchange (c.form s) Headers.empty) :=
    RunMirrors.last (Act.lift_mirrors _) fun _ =>
      RunMirrors.last (Act.call_mirrors (by decide) _ _ _ _) fun _ =>
        RunMirrors.last (Act.lift_mirrors _) fun _ => RunMirrors.pure _
  refine RunMirrors.last trades fun answer => ?_
  have service : c.counterpart.impersonationUrl = c.impersonationUrl := rfl
  rw [service]
  cases c.impersonationUrl with
  | none => exact RunMirrors.last Act.now_mirrors fun _ => RunMirrors.pure _
  | some url =>
    exact RunMirrors.last (Act.lift_mirrors _) fun _ =>
      RunMirrors.last (Act.call_mirrors (by decide) _ _ _ _) fun _ =>
        RunMirrors.last (Act.lift_mirrors _) fun _ => Act.lift_mirrors _

theorem lookup_mirrors (baseUrl number : String) (h : Headers) :
    Act.ActMirrors nothing (Project.lookup baseUrl number h) (Project.lookup baseUrl number h) :=
  RunMirrors.last (Act.call_mirrors (by decide) _ _ _ _) fun _ =>
    RunMirrors.last (Act.lift_mirrors _) fun _ =>
      RunMirrors.last (Act.note_mirrors _) fun _ => RunMirrors.pure _

end Credentials

/-! ## §5. Calls. -/

/-- How sessions are compared. -/
def Session.pairing : Pairing Session := ⟨fun s => s.world.network.arrived, Session.Abreast⟩

/-- Two actions in a session. -/
abbrev UseMirrors {α : Type} (trace : Trace Session) (x x' : Use α) : Prop :=
  RunMirrors Session.pairing trace x x'

namespace Credentials

open Trace

/-- What mirrors on the world mirrors in a session. -/
theorem outside_mirrors {α : Type} {act act' : Act α} (h : Act.ActMirrors nothing act act') :
    UseMirrors nothing (Use.outside act) (Use.outside act') := by
  intro s
  obtain ⟨new, arrived, mirror⟩ := h s.world
  simp only [run_outside]
  refine ⟨new, arrived, fun tokens errands later s' drawn abreast => ?_⟩
  obtain ⟨same, world, arrived⟩ := mirror tokens errands later s'.world drawn abreast.world
  exact ⟨same, ⟨world, abreast.cache, abreast.projectId⟩, arrived⟩

variable (c : Credentials)

/-- **A caller** is served from both caches, or both fetch a token and keep it. -/
theorem obtain_mirrors (d : Demand) :
    UseMirrors (c.drawn d) (c.obtain d) (c.counterpart.obtain d) := by
  intro s
  dsimp only
  rcases s.hit_or_stale d with ⟨t, rfl, hit⟩ | stale
  · rw [c.run_obtain_hit hit, drawn_of_hit hit]
    refine ⟨[], rfl, fun tokens errands later s' drawn abreast => ?_⟩
    cases List.map_eq_nil_iff.mp drawn.symm
    have hit' : s'.cache.usable? s'.world.clock.now = some t := by
      rw [abreast.cache, abreast.world.clock]
      exact hit
    rw [c.counterpart.run_obtain_hit hit']
    exact ⟨rfl, ⟨abreast.world.note _ _, abreast.cache, abreast.projectId⟩, rfl⟩
  · obtain ⟨new, arrived, mirror⟩ := c.fetch_mirrors (s.world.note TokenCache.fetchRecord)
    rw [c.run_obtain_fetch stale, drawn_of_stale stale]
    refine ⟨new, arrived, fun tokens errands later s' drawn abreast => ?_⟩
    have stale' : d = .current → s'.cache.usable? s'.world.clock.now = none := by
      rw [abreast.cache, abreast.world.clock]
      exact stale
    obtain ⟨same, world, arrived⟩ := mirror tokens errands later
      (s'.world.note TokenCache.fetchRecord) drawn (abreast.world.note _ _)
    rw [c.counterpart.run_obtain_fetch stale']
    refine ⟨same, ⟨world.note _ _, ?_, abreast.projectId⟩, arrived⟩
    show s'.cache.settle (c.counterpart.fetch.run _).1 = s.cache.settle (c.fetch.run _).1
    dsimp only at same
    rw [same, abreast.cache]

theorem headers_mirror : UseMirrors (c.drawn .current) c.headers c.counterpart.headers := by
  refine RunMirrors.last (c.obtain_mirrors .current) fun t => ?_
  have signed : c.counterpart.sign t = c.sign t := rfl
  rw [signed]
  cases c.sign t with
  | ok h => exact RunMirrors.pure h
  | error e => exact RunMirrors.throw e

theorem sendWithToken_mirrors (r : Request) :
    UseMirrors (c.drawn .current) (c.sendWithToken r) (c.counterpart.sendWithToken r) :=
  RunMirrors.last c.headers_mirror fun _ => outside_mirrors (Act.send_mirrors (by decide) _)

theorem told_mirrors (response : Response) :
    UseMirrors nothing
      (match successful response with
        | .ok first => return first
        | .error e => throw e)
      (match successful response with
        | .ok first => return first
        | .error e => throw e) := by
  cases successful response with
  | ok first => exact RunMirrors.pure first
  | error e => exact RunMirrors.throw e

/-- **A request** takes the same course. -/
theorem request_mirrors (r : Request) :
    UseMirrors (c.drawnByRequest r) (c.request r) (c.counterpart.request r) := by
  refine RunMirrors.bind (c.sendWithToken_mirrors r) fun response => ?_
  have policy : c.counterpart.policy = c.policy := rfl
  rw [policy]
  dsimp only
  cases (if c.policy.retryRefused then r.replay? else none) with
  | none => exact told_mirrors response
  | some again =>
    dsimp only
    split
    · -- both are refused, and both try once more with a fresh token
      refine RunMirrors.bind (outside_mirrors (Act.note_mirrors _)) fun _ => ?_
      refine RunMirrors.bind (c.obtain_mirrors .fresh) fun _ => ?_
      exact RunMirrors.last (c.sendWithToken_mirrors again) fun second => told_mirrors second
    · exact told_mirrors response

/-- **The project** is found in the same way, or known already. -/
theorem projectId_mirrors :
    UseMirrors c.drawnByProjectId c.projectId c.counterpart.projectId := by
  cases number : c.projectNumber with
  | none =>
    rw [drawnByProjectId_of_none number, projectId_of_none number,
      projectId_of_none (c := c.counterpart) number]
    exact RunMirrors.pure none
  | some number' =>
    let traces (known : Option String) : Trace Session :=
      known.elim (c.drawn .current) fun _ => nothing
    have drawn : c.drawnByProjectId = fun s => traces s.projectId s :=
      drawnByProjectId_of_some number
    rw [drawn, projectId_of_number number, projectId_of_number (c := c.counterpart) number]
    refine RunMirrors.look (m := Session.pairing) Session.projectId
      (fun _ _ _ _ abreast => abreast.projectId) fun known => ?_
    cases known with
    | some id => exact RunMirrors.pure (some id)
    | none =>
      refine RunMirrors.last c.headers_mirror fun h => ?_
      refine RunMirrors.last (outside_mirrors (lookup_mirrors _ _ h)) fun found => ?_
      refine RunMirrors.last ?_ fun _ => RunMirrors.pure (some found)
      exact Mirrors.still (fun _ => rfl) (fun _ => rfl) fun _ _ _ _ abreast =>
        ⟨rfl, abreast.world, abreast.cache, rfl⟩

/-- A change of the cache that asks nobody, and what can be seen of it. -/
theorem change_mirrors (tell : TokenCache → Answer) (f : TokenCache → TokenCache) :
    Mirrors Session.pairing nothing (fun s => (tell s.cache, { s with cache := f s.cache }))
      fun s => (tell s.cache, { s with cache := f s.cache }) :=
  Mirrors.still (fun _ => rfl) (fun _ => rfl) fun _ _ _ _ abreast =>
    ⟨congrArg tell abreast.cache, abreast.world, congrArg f abreast.cache, abreast.projectId⟩

/-- A change around a session. -/
theorem around_mirrors (f : World → World) (network : ∀ w, (f w).network = w.network)
    (h : ∀ errands tokens w w', World.Abreast errands tokens w w' →
      World.Abreast errands tokens (f w) (f w')) :
    Mirrors Session.pairing nothing (fun s => (Answer.nothing, { s with world := f s.world }))
      fun s => (Answer.nothing, { s with world := f s.world }) :=
  Mirrors.still (fun s => congrArg Network.arrived (network s.world))
    (fun s => congrArg Network.arrived (network s.world)) fun _ _ _ _ abreast =>
    ⟨rfl, h _ _ _ _ abreast.world, abreast.cache, abreast.projectId⟩

/-- **A call** is answered in the same way. -/
theorem take_mirrors (call : Call) :
    Mirrors Session.pairing (c.drawnBy call)
      (fun s => (c.answer call s, c.take call.action s))
      fun s => (c.counterpart.answer call s, c.counterpart.take call.action s) := by
  cases call with
  | token d => exact Mirrors.map (c.obtain_mirrors d) Answer.token
  | headers => exact Mirrors.map c.headers_mirror Answer.headers
  | projectId => exact Mirrors.map c.projectId_mirrors Answer.projectId
  | request r => exact Mirrors.map (c.request_mirrors r) Answer.response
  | install t => exact change_mirrors (fun _ => .nothing) (·.install t)
  | subscribe =>
    exact change_mirrors (fun cache => .subscription cache.feed.subscribe.1)
      fun cache => { cache with feed := cache.feed.subscribe.2 }
  | receive i =>
    exact change_mirrors (fun cache => .delivery (cache.feed.receive i).1)
      fun cache => { cache with feed := (cache.feed.receive i).2 }
  | files fs =>
    exact around_mirrors (fun w => { w with files := fs }) (fun _ => rfl) fun _ _ _ _ abreast =>
      ⟨abreast.listening, abreast.script, abreast.clock, abreast.subjects⟩
  | adjust a =>
    exact around_mirrors (fun w => { w with clock := w.clock.adjust a }) (fun _ => rfl)
      fun _ _ _ _ abreast => ⟨abreast.listening, abreast.script,
        congrArg (Clock.adjust · a) abreast.clock, abreast.subjects⟩

end Credentials

end WorkloadIdentity
