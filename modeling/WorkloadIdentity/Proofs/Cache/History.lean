/-
  WorkloadIdentity.Proofs.Cache.History ──── **WHAT A RUN SHOWS TO SOMEBODY WHO WATCHES IT.**

  Nothing is recorded while the machine runs.  A history is read off the events and off pairs of
  neighbouring states: who came with which demand, what fetches brought, who began one, what was
  published, and who was answered before somebody else came.

  Main results:
    * `Feed.news_publish` — a published item is the only news
    * `Timeline.stored_of_run` — the cache holds the last token that was written
    * `Timeline.along_snoc`, `Timeline.observe_snoc` — histories grow at their end with the run
    * `Timeline.returnedBefore_snoc` — one more event adds only pairs that its last state shows
    * `Timeline.newAnswers_append`, `Timeline.newAnswers_set` — the answers that an event adds
-/
import WorkloadIdentity.Proofs.Cache.Timeline

namespace WorkloadIdentity

/-! ## §1. News. -/

/-- What was published between two states of a feed, if it was at most sixteen items. -/
def Feed.news {α : Type} (before after : Feed α) : List α :=
  (after.kept.take (after.published - before.published)).reverse

@[simp] theorem Feed.news_self {α : Type} (f : Feed α) : f.news f = [] := by
  simp [Feed.news]

@[simp] theorem Feed.news_publish {α : Type} (f : Feed α) (x : α) : f.news (f.publish x) = [x] := by
  simp [Feed.news, Feed.publish, Feed.capacity]

/-- What a settled fetch publishes: the notice of its token, if it brought one. -/
def Outcome.notices : Outcome → List TokenNotice
  | .ok t => [t.notice]
  | .error _ => []

theorem TokenCache.news_settle (c : TokenCache) (outcome : Outcome) :
    c.feed.news (c.settle outcome).feed = outcome.notices := by
  cases outcome with
  | error e => exact Feed.news_self c.feed
  | ok t => exact Feed.news_publish c.feed t.notice

namespace Timeline

/-! ## §2. Events by themselves. -/

/-- What the caller wants who comes with an event. -/
def Event.demand? : Event → Option Demand
  | .arrive d => some d
  | _ => none

/-- What a fetch brings that ends with an event. -/
def Event.outcome? : Event → Option Outcome
  | .settle outcome => some outcome
  | _ => none

/-- The demands of callers, in the order in which they come. -/
def demands (es : List Event) : List Demand := es.filterMap Event.demand?

/-- What fetches bring, in the order in which they end. -/
def outcomes (es : List Event) : List Outcome := es.filterMap Event.outcome?

theorem demands_snoc (es : List Event) (e : Event) :
    demands (es ++ [e]) = demands es ++ e.demand?.toList := by
  unfold demands
  rw [List.filterMap_append]
  cases h : e.demand? <;> simp [h]

theorem outcomes_snoc (es : List Event) (e : Event) :
    outcomes (es ++ [e]) = outcomes es ++ e.outcome?.toList := by
  unfold outcomes
  rw [List.filterMap_append]
  cases h : e.outcome? <;> simp [h]

/-- The fetches of a run bring what a script says. -/
def Follows (script : Nat → Outcome) (es : List Event) : Prop :=
  ∀ i outcome, (outcomes es)[i]? = some outcome → script i = outcome

theorem Follows.init {script : Nat → Outcome} {es : List Event} {e : Event}
    (h : Follows script (es ++ [e])) : Follows script es := by
  intro i outcome hi
  apply h i outcome
  rw [outcomes_snoc, List.getElem?_append_left (List.getElem?_eq_some_iff.mp hi).1]
  exact hi

theorem Follows.last {script : Nat → Outcome} {es : List Event} {outcome : Outcome}
    (h : Follows script (es ++ [.settle outcome])) : script (outcomes es).length = outcome := by
  apply h
  rw [outcomes_snoc]
  simp [Event.outcome?]

/-- The token that an event puts into the cache. -/
def Event.written? : Event → Option AccessToken
  | .settle (.ok t) => some t
  | .install t => some t
  | _ => none

/-- The tokens that are put into the cache, in order. -/
def writes (es : List Event) : List AccessToken := es.filterMap Event.written?

theorem writes_snoc (es : List Event) (e : Event) :
    writes (es ++ [e]) = writes es ++ e.written?.toList := by
  unfold writes
  rw [List.filterMap_append]
  cases h : e.written? <;> simp [h]

/-- Who has come keeps its demand. -/
theorem demands_mono {es : List Event} {e : Event} {k : Nat} {d : Demand}
    (h : (demands es)[k]? = some d) : (demands (es ++ [e]))[k]? = some d := by
  rw [demands_snoc, List.getElem?_append_left (List.getElem?_eq_some_iff.mp h).1]
  exact h

/-- The end of a fetch and an installation write; nothing else does. -/
theorem Step.stored {s next : Timeline} {e : Event} (h : Step s e next) :
    next.cache.stored = e.written?.or s.cache.stored := by
  cases h with
  | settle outcome _ => cases outcome <;> rfl
  | _ => rfl

/-- **The cache holds the last token that was written**, or else what it held before. -/
theorem stored_of_run {s next : Timeline} {es : List Event} (run : s.run? es = some next) :
    next.cache.stored = (writes es).getLast?.or s.cache.stored := by
  refine run_induction (P := fun es next =>
    next.cache.stored = (writes es).getLast?.or s.cache.stored) rfl ?_ run
  intro es mid e next _ ih step
  rw [step.stored, ih, writes_snoc]
  cases e.written? <;> simp

/-! ## §3. Conditions on every event of a run. -/

/-- A condition holds at every event of a run, and in the state in which it happens. -/
def Along (P : Timeline → Event → Prop) : Timeline → List Event → Prop
  | _, [] => True
  | s, e :: rest =>
    P s e ∧
      match s.step? e with
      | none => True
      | some next => Along P next rest

/-- A condition that looks only at the events holds along every run. -/
theorem along_of_forall {P : Timeline → Event → Prop} {es : List Event}
    (h : ∀ e ∈ es, ∀ s, P s e) (s : Timeline) : Along P s es := by
  induction es generalizing s with
  | nil => trivial
  | cons e es ih =>
    refine ⟨h e List.mem_cons_self s, ?_⟩
    cases s.step? e with
    | none => trivial
    | some next => exact ih (fun e' he' => h e' (List.mem_cons_of_mem e he')) next

theorem along_snoc {P : Timeline → Event → Prop} {s mid : Timeline} {es : List Event} {e : Event}
    (run : s.run? es = some mid) : Along P s (es ++ [e]) ↔ Along P s es ∧ P mid e := by
  -- conditions are read from the front, so the induction goes that way as well
  induction es generalizing s with
  | nil =>
    cases run
    simp only [List.nil_append, Along, true_and, and_iff_left_iff_imp]
    intro _
    split <;> trivial
  | cons first es ih =>
    obtain ⟨next, hstep, hrest⟩ := Option.bind_eq_some_iff.mp run
    simp only [List.cons_append, Along, hstep]
    rw [ih hrest, and_assoc]

/-! ## §4. What neighbouring states show. -/

/-- What each event of a run shows to somebody who sees the states before and after it. -/
def observe {α : Type} (look : Timeline → Timeline → List α) : Timeline → List Event → List α
  | _, [] => []
  | s, e :: rest =>
    match s.step? e with
    | none => []
    | some next => look s next ++ observe look next rest

theorem observe_snoc {α : Type} {look : Timeline → Timeline → List α} {s mid next : Timeline}
    {es : List Event} {e : Event} (run : s.run? es = some mid) (step : Step mid e next) :
    observe look s (es ++ [e]) = observe look s es ++ look mid next := by
  induction es generalizing s with
  | nil =>
    cases run
    simp only [List.nil_append, observe, step?_eq_some_iff.mpr step, List.append_nil]
  | cons first es ih =>
    obtain ⟨after, hstep, hrest⟩ := Option.bind_eq_some_iff.mp run
    simp only [List.cons_append, observe, hstep, ih hrest, List.append_assoc]

/-- Who takes the lock to fetch between two states. -/
def newHolder (before after : Timeline) : List Nat :=
  if before.holder = none then after.holder.toList else []

/-- The callers who began a fetch, in order. -/
def fetchers (s : Timeline) (es : List Event) : List Nat := observe newHolder s es

/-- The notices that were published, in order. -/
def notices (s : Timeline) (es : List Event) : List TokenNotice :=
  observe (fun before after => before.cache.feed.news after.cache.feed) s es

/-! ## §5. Real time. -/

/-- Somebody had its answer in a state in which somebody else had not come. -/
def ReturnedBefore (s : Timeline) (es : List Event) (caller other : Nat) : Prop :=
  ∃ done later mid, es = done ++ later ∧ s.run? done = some mid ∧ mid.Answered caller ∧
    mid.phases.length ≤ other

/-- The clock showed a reading at an event by whose end the caller had come and before which it
had no answer. -/
def ReadDuring (s : Timeline) (es : List Event) (caller : Nat) (now : Int) : Prop :=
  ∃ done e later mid next, es = done ++ e :: later ∧ s.run? done = some mid ∧ Step mid e next ∧
    ¬ mid.Answered caller ∧ caller < next.phases.length ∧ mid.clock.now = now

theorem returnedBefore_snoc {s next : Timeline} {es : List Event} {e : Event} {caller other : Nat}
    (run : s.run? (es ++ [e]) = some next)
    (before : ReturnedBefore s (es ++ [e]) caller other) :
    ReturnedBefore s es caller other ∨ (next.Answered caller ∧ next.phases.length ≤ other) := by
  obtain ⟨done, later, mid, hsplit, hrun, hans, hlen⟩ := before
  -- the state in which this shows is the last one, or it was there before the last event
  rcases List.eq_nil_or_concat later with rfl | ⟨later, last, rfl⟩
  · rw [List.append_nil] at hsplit
    rw [← hsplit, run] at hrun
    cases hrun
    exact .inr ⟨hans, hlen⟩
  · rw [List.concat_eq_append, ← List.append_assoc] at hsplit
    obtain ⟨hes, -⟩ := List.append_inj' hsplit rfl
    exact .inl ⟨done, later, mid, hes, hrun, hans, hlen⟩

theorem readDuring_mono {s : Timeline} {es : List Event} {e : Event} {caller : Nat} {now : Int}
    (h : ReadDuring s es caller now) : ReadDuring s (es ++ [e]) caller now := by
  obtain ⟨done, first, later, mid, next, rfl, rest⟩ := h
  exact ⟨done, first, later ++ [e], mid, next, by simp, rest⟩

/-! ## §6. Answers that an event adds. -/

/-- Between two states exactly the answers of a list were given. -/
def NewAnswers (before after : Timeline) (given : List (Nat × Outcome)) : Prop :=
  ∀ (k : Nat) (outcome : Outcome), after.phases[k]? = some (.answered outcome) ↔
    before.phases[k]? = some (.answered outcome) ∨ (k, outcome) ∈ given

theorem NewAnswers.answered_iff {before after : Timeline} {given : List (Nat × Outcome)}
    (h : NewAnswers before after given) (k : Nat) :
    after.Answered k ↔ before.Answered k ∨ k ∈ given.map (·.1) := by
  simp only [Answered, h k, exists_or, List.mem_map]
  refine or_congr Iff.rfl ⟨?_, ?_⟩
  · rintro ⟨outcome, hmem⟩
    exact ⟨(k, outcome), hmem, rfl⟩
  · rintro ⟨⟨_, outcome⟩, hmem, rfl⟩
    exact ⟨outcome, hmem⟩

/-- The answer that a caller has in a phase. -/
def answersIn (caller : Nat) : Phase → List (Nat × Outcome)
  | .answered outcome => [(caller, outcome)]
  | _ => []

/-- Nobody is answered when phases stay as they are. -/
theorem newAnswers_of_phases {before after : Timeline} (same : after.phases = before.phases) :
    NewAnswers before after [] := by
  intro k outcome
  rw [same]
  simp

/-- A caller who comes is answered at once or not. -/
theorem newAnswers_append (s : Timeline) (p : Phase) :
    NewAnswers s (s.setPhases (s.phases ++ [p])) (answersIn s.phases.length p) := by
  intro k outcome
  show (s.phases ++ [p])[k]? = _ ↔ _
  rw [lookup_append]
  cases p <;> simp [answersIn, eq_comm]

/-- A caller who had no answer goes on, with an answer or without. -/
theorem newAnswers_set {before after : Timeline} {caller : Nat} {old p : Phase}
    (was : before.phases[caller]? = some old) (unanswered : ∀ outcome, old ≠ .answered outcome)
    (now : after.phases = before.phases.set caller p) :
    NewAnswers before after (answersIn caller p) := by
  intro k outcome
  rw [now, lookup_set was]
  by_cases hk : k = caller
  · subst hk
    rw [was]
    cases p <;> simp [answersIn, unanswered, eq_comm]
  · cases p <;> simp [answersIn, hk]

end Timeline

end WorkloadIdentity
