/-
  WorkloadIdentity.Proofs.Cache.Fetches ──── **EVERY FETCH BELONGS TO ONE CALLER.**

  A fetch begins when a caller takes the lock and ends when the lock is free again.  Both are read
  off neighbouring states, so the callers who began a fetch and those whose fetch has ended are
  lists that grow at their end with the run.  Whoever began the n-th fetch is answered with what
  the n-th fetch brought.

  Main results:
    * `Timeline.present_of_run` — everyone who came has a phase, and waits for what it came for
    * `Timeline.holders_of_run` — fetches end in the order in which they began
    * `Timeline.returned_of_run`, `Timeline.answered_of_fetch` — what a fetch brings is the answer
      of the caller who began it
    * `Timeline.fetchers_nodup` — nobody begins two
-/
import WorkloadIdentity.Proofs.Cache.History

namespace WorkloadIdentity

namespace Timeline

/-! ## §1. Who has come. -/

/-- Callers by their number: everyone who came has a phase, and waits for what it came for. -/
structure Present (es : List Event) (s : Timeline) : Prop where
  /-- Who fetches holds the lock. -/
  locked : s.Locked
  /-- There is one phase for everyone who came. -/
  come : s.phases.length = (demands es).length
  /-- Who waits, waits for what it came for. -/
  waits : ∀ (k : Nat) (d : Demand), s.phases[k]? = some (Phase.waiting d) →
    (demands es)[k]? = some d

theorem present_start (c : TokenCache) (clock : Clock) : Present [] (start c clock) where
  locked := locked_start c clock
  come := rfl
  waits k d h := by simp [start, Callers.nobody, phases] at h

/-- Who comes with an event is the next in number. -/
theorem Present.newcomer {es : List Event} {s : Timeline} (h : Present es s) (d : Demand) :
    (demands (es ++ [.arrive d]))[s.phases.length]? = some d := by
  rw [demands_snoc, h.come]
  simp [Event.demand?]

theorem Present.step {es : List Event} {s next : Timeline} {e : Event} (h : Present es s)
    (step : Step s e next) : Present (es ++ [e]) next := by
  refine ⟨step.locked h.locked, ?_, ?_⟩
  · -- one more phase exactly if somebody came
    rw [demands_snoc, List.length_append, ← h.come]
    cases step <;> simp [setPhases, setCache, phases, Event.demand?]
  · intro k d waits
    cases step with
    | hit =>
      rcases lookup_append.mp waits with was | ⟨-, impossible⟩
      · exact demands_mono (h.waits k d was)
      · cases impossible
    | @queue d' stale =>
      rcases lookup_append.mp waits with was | ⟨hk, hd⟩
      · exact demands_mono (h.waits k d was)
      · cases hd
        rw [hk]
        exact h.newcomer d
    | served _ old | fetch _ old =>
      rcases (lookup_set old).mp waits with ⟨-, impossible⟩ | ⟨-, was⟩
      · cases impossible
      · exact demands_mono (h.waits k d was)
    | @settle j outcome held =>
      rcases (lookup_set ((h.locked j).mpr held)).mp waits with ⟨-, impossible⟩ | ⟨-, was⟩
      · cases impossible
      · exact demands_mono (h.waits k d was)
    | _ => exact demands_mono (h.waits k d waits)

theorem present_of_run {c : TokenCache} {clock : Clock} {es : List Event} {s : Timeline}
    (run : (start c clock).run? es = some s) : Present es s :=
  run_induction (P := Present) (present_start c clock)
    (fun _ _ _ _ _ ih step => ih.step step) run

/-! ## §2. Fetches begin and end. -/

/-- Who has the lock no longer after its fetch, between two states. -/
def oldHolder (before after : Timeline) : List Nat :=
  if after.holder = none then before.holder.toList else []

/-- The callers whose fetch has ended, in order. -/
def finishers (s : Timeline) (es : List Event) : List Nat := observe oldHolder s es

/-- Each caller whose fetch has ended with what its fetch brought, in order. -/
def returns (s : Timeline) (es : List Event) : List (Nat × Outcome) :=
  (finishers s es).zip (outcomes es)

theorem finishers_snoc {s mid next : Timeline} {es : List Event} {e : Event}
    (run : s.run? es = some mid) (step : Step mid e next) :
    finishers s (es ++ [e]) = finishers s es ++ oldHolder mid next :=
  observe_snoc run step

theorem fetchers_snoc {s mid next : Timeline} {es : List Event} {e : Event}
    (run : s.run? es = some mid) (step : Step mid e next) :
    fetchers s (es ++ [e]) = fetchers s es ++ newHolder mid next :=
  observe_snoc run step

/-- A lock that stays where it is was neither taken nor given back. -/
theorem holders_of_same {s next : Timeline} (same : next.holder = s.holder) :
    newHolder s next = [] ∧ oldHolder s next = [] := by
  unfold newHolder oldHolder
  rw [same]
  cases s.holder <;> simp

/-- **What one event does to the lock**: nothing, or a waiting caller takes it to fetch, or it is
given back with what the fetch brought. -/
theorem Step.holders {s next : Timeline} {e : Event} (h : Step s e next) :
    (next.holder = s.holder ∧ e.outcome? = none ∧
      newHolder s next = [] ∧ oldHolder s next = []) ∨
    (∃ k d, e = .enter k ∧ s.phases[k]? = some (Phase.waiting d) ∧
      (d = .current → s.usable? = none) ∧ s.holder = none ∧ next.holder = some k ∧
      newHolder s next = [k] ∧ oldHolder s next = []) ∨
    (∃ k outcome, e = .settle outcome ∧ s.holder = some k ∧ next.holder = none ∧
      newHolder s next = [] ∧ oldHolder s next = [k]) := by
  cases h with
  | @fetch k d free waits stale =>
    refine .inr (.inl ⟨k, d, rfl, waits, stale, free, rfl, ?_, ?_⟩)
    · unfold newHolder
      rw [if_pos free]
      rfl
    · unfold oldHolder
      rw [if_neg (by simp)]
  | @settle k outcome held =>
    refine .inr (.inr ⟨k, outcome, rfl, held, rfl, ?_, ?_⟩)
    · unfold newHolder
      rw [if_neg (by simp [held])]
    · unfold oldHolder
      rw [if_pos rfl, held]
      rfl
  | _ =>
    -- nobody else touches the lock
    exact .inl ⟨rfl, rfl, holders_of_same rfl⟩

/-- **Fetches end in the order in which they began**: those that have ended, and the one that is
under way, are those that began; and each that has ended has brought something. -/
theorem holders_of_run {s next : Timeline} {es : List Event} (free : s.holder = none)
    (run : s.run? es = some next) :
    fetchers s es = finishers s es ++ next.holder.toList ∧
    (finishers s es).length = (outcomes es).length := by
  refine run_induction (P := fun es next =>
    fetchers s es = finishers s es ++ next.holder.toList ∧
      (finishers s es).length = (outcomes es).length) ?_ ?_ run
  · rw [free]
    exact ⟨rfl, rfl⟩
  · intro es mid e next hrun ih step
    obtain ⟨whole, paired⟩ := ih
    rw [fetchers_snoc hrun step, finishers_snoc hrun step, outcomes_snoc, whole]
    rcases step.holders with ⟨hsame, hout, hnew, hold⟩
      | ⟨k, d, rfl, -, -, hfree, hheld, hnew, hold⟩ | ⟨k, outcome, rfl, hheld, hfree, hnew, hold⟩
    · rw [hnew, hold, hsame, hout]
      simp [paired]
    · -- who takes the lock stands last among those who began
      rw [hnew, hold, hfree, hheld]
      simp [paired, Event.outcome?]
    · -- who gives it back was last there, and is last now among those who ended
      rw [hnew, hold, hheld, hfree]
      simp [paired, Event.outcome?]

/-! ## §3. Who is answered. -/

/-- **What one event does to answers**: it gives a usable token to a newcomer or to one who waited,
or what a fetch brought to the caller who began it, and nothing else. -/
theorem Step.answers {s next : Timeline} {e : Event} {k : Nat} {outcome : Outcome}
    (h : Step s e next) (locked : s.Locked)
    (done : next.phases[k]? = some (.answered outcome)) :
    s.phases[k]? = some (.answered outcome) ∨
    (∃ t, outcome = .ok t ∧ s.usable? = some t ∧ k < next.phases.length ∧
      ((e = .arrive .current ∧ k = s.phases.length) ∨
        (e = .enter k ∧ s.phases[k]? = some (Phase.waiting .current)))) ∨
    (e = .settle outcome ∧ s.holder = some k) := by
  have come : k < next.phases.length := (List.getElem?_eq_some_iff.mp done).1
  cases h with
  | @hit t found =>
    rcases lookup_append.mp done with before | ⟨hk, same⟩
    · exact .inl before
    · cases same
      exact .inr (.inl ⟨t, rfl, found, come, .inl ⟨rfl, hk⟩⟩)
  | queue =>
    rcases lookup_append.mp done with before | ⟨-, impossible⟩
    · exact .inl before
    · cases impossible
  | @served j t _ waits found =>
    rcases (lookup_set waits).mp done with ⟨rfl, same⟩ | ⟨-, before⟩
    · cases same
      exact .inr (.inl ⟨t, rfl, found, come, .inr ⟨rfl, waits⟩⟩)
    · exact .inl before
  | fetch _ waits _ =>
    rcases (lookup_set waits).mp done with ⟨-, impossible⟩ | ⟨-, before⟩
    · cases impossible
    · exact .inl before
  | @settle j _ held =>
    rcases (lookup_set ((locked j).mpr held)).mp done with ⟨rfl, same⟩ | ⟨-, before⟩
    · cases same
      exact .inr (.inr ⟨rfl, held⟩)
    · exact .inl before
  | _ => exact .inl done

/-! ## §4. What a fetch brings. -/

theorem returns_snoc {s mid next : Timeline} {es : List Event} {e : Event}
    (free : s.holder = none) (run : s.run? es = some mid) (step : Step mid e next) :
    returns s (es ++ [e]) = returns s es ++ (oldHolder mid next).zip e.outcome?.toList := by
  unfold returns
  rw [finishers_snoc run step, outcomes_snoc]
  exact List.zip_append (holders_of_run free run).2

/-- Who holds the lock when a fetch ends is answered with what it brought. -/
theorem Step.settled {s next : Timeline} {k : Nat} {outcome : Outcome}
    (h : Step s (.settle outcome) next) (locked : s.Locked) (held : s.holder = some k) :
    next.phases[k]? = some (.answered outcome) := by
  cases h with
  | @settle j _ held' =>
    have same : j = k := by
      rw [held'] at held
      exact Option.some.inj held
    subst same
    exact (lookup_set ((locked j).mpr held')).mpr (.inl ⟨rfl, rfl⟩)

theorem Step.frees {s next : Timeline} {outcome : Outcome} (h : Step s (.settle outcome) next) :
    next.holder = none := by
  cases h with
  | settle => rfl

/-- **What a fetch brings is the answer of the caller who began it.** -/
theorem returned_of_run {s next : Timeline} {es : List Event} (free : s.holder = none)
    (locked : s.Locked) (run : s.run? es = some next) {k : Nat} {outcome : Outcome}
    (returned : (k, outcome) ∈ returns s es) :
    next.phases[k]? = some (.answered outcome) := by
  refine run_induction (P := fun es next =>
    (k, outcome) ∈ returns s es → next.phases[k]? = some (.answered outcome)) ?_ ?_ run returned
  · intro impossible
    cases impossible
  · intro es mid e next hrun ih step returned
    have lockedMid : mid.Locked := locked.run hrun
    rw [returns_snoc free hrun step, List.mem_append] at returned
    rcases returned with earlier | now
    · exact step.answered lockedMid (ih earlier)
    · rcases step.holders with ⟨-, -, -, hold⟩ | ⟨j, d, -, -, -, -, -, -, hold⟩
        | ⟨j, brought, rfl, held, -, -, hold⟩
      · rw [hold] at now
        cases now
      · rw [hold] at now
        cases now
      · -- the last event gave the lock back, and its caller was answered
        rw [hold] at now
        have same : (k, outcome) = (j, brought) := List.mem_singleton.mp now
        cases same
        exact step.settled lockedMid held

/-- Whoever has ended a fetch has what it brought. -/
theorem exists_returns {s next : Timeline} {es : List Event} (free : s.holder = none)
    (run : s.run? es = some next) {k : Nat} (finished : k ∈ finishers s es) :
    ∃ outcome, (k, outcome) ∈ returns s es := by
  obtain ⟨i, hi, rfl⟩ := List.mem_iff_getElem.mp finished
  have within : i < (outcomes es).length := (holders_of_run free run).2 ▸ hi
  refine ⟨(outcomes es)[i], List.mem_iff_getElem.mpr ⟨i, ?_, ?_⟩⟩
  · unfold returns
    rw [List.length_zip]
    omega
  · exact List.getElem_zip

/-- Whoever began the i-th fetch is answered with what the i-th fetch brought. -/
theorem answered_of_fetch {s next : Timeline} {es : List Event} (free : s.holder = none)
    (locked : s.Locked) (run : s.run? es = some next) {i k : Nat} {outcome : Outcome}
    (began : (fetchers s es)[i]? = some k) (brought : (outcomes es)[i]? = some outcome) :
    next.phases[k]? = some (.answered outcome) := by
  obtain ⟨whole, paired⟩ := holders_of_run free run
  have ended : i < (finishers s es).length := by
    rw [paired]
    exact (List.getElem?_eq_some_iff.mp brought).1
  -- the i-th fetch has ended, so its caller stands at the same place among those who ended
  rw [whole, List.getElem?_append_left ended] at began
  refine returned_of_run free locked run (List.mem_of_getElem? (i := i) ?_)
  unfold returns
  exact List.getElem?_zip_eq_some.mpr ⟨began, brought⟩

/-- Whoever has begun a fetch is at it or has its answer: it does not wait again. -/
theorem begun_of_run {s next : Timeline} {es : List Event} (free : s.holder = none)
    (locked : s.Locked) (run : s.run? es = some next) {k : Nat} (begun : k ∈ fetchers s es) :
    next.phases[k]? = some .fetching ∨ next.Answered k := by
  rw [(holders_of_run free run).1, List.mem_append] at begun
  rcases begun with finished | holds
  · obtain ⟨outcome, returned⟩ := exists_returns free run finished
    exact .inr ⟨outcome, returned_of_run free locked run returned⟩
  · exact .inl ((locked.run run k).mpr (Option.mem_toList.mp holds))

theorem lt_of_begun {s next : Timeline} {es : List Event} (free : s.holder = none)
    (locked : s.Locked) (run : s.run? es = some next) {k : Nat} (begun : k ∈ fetchers s es) :
    k < next.phases.length := by
  rcases begun_of_run free locked run begun with fetching | done
  · exact (List.getElem?_eq_some_iff.mp fetching).1
  · exact done.lt

/-- **Nobody begins two fetches.** -/
theorem fetchers_nodup {s next : Timeline} {es : List Event} (free : s.holder = none)
    (locked : s.Locked) (run : s.run? es = some next) : (fetchers s es).Nodup := by
  refine run_induction (P := fun es _ => (fetchers s es).Nodup) List.nodup_nil ?_ run
  intro es mid e next hrun ih step
  rw [fetchers_snoc hrun step]
  rcases step.holders with ⟨-, -, hnew, -⟩ | ⟨k, d, -, waits, -, -, -, hnew, -⟩
    | ⟨k, outcome, -, -, -, hnew, -⟩
  · rw [hnew, List.append_nil]
    exact ih
  · rw [hnew]
    refine List.nodup_append.mpr ⟨ih, by simp, ?_⟩
    rintro j begun _ last rfl
    cases List.mem_singleton.mp last
    -- who takes the lock was waiting, and nobody waits who has begun
    rcases begun_of_run free locked hrun begun with fetching | ⟨outcome, done⟩
    · rw [waits] at fetching
      cases fetching
    · rw [waits] at done
      cases done
  · rw [hnew, List.append_nil]
    exact ih

end Timeline

end WorkloadIdentity
