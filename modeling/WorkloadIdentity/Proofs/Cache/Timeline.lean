/-
  WorkloadIdentity.Proofs.Cache.Timeline ──── **CALLERS AND A CLOCK, ONE EVENT AT A TIME.**

  The callers of `Token.Callers` are told the reading of the clock with each move.  Here the clock
  is part of the state, and moving it is an event like any other, so a run is a list of events and
  every interleaving is one such list.

  Main results:
    * `Timeline.step?_eq_some_iff` — everything that one event can do, guards included: later
      proofs split on `Step` and never open the moves themselves
    * `Timeline.run?_snoc`, `Timeline.run_induction` — runs grow at their end
    * `Timeline.answered_stays` — an answer, once given, is never taken back
-/
import WorkloadIdentity.Token.Callers
import Mathlib.Data.List.Induction

namespace WorkloadIdentity

/-! ## §1. States and events. -/

/-- A cache with callers at it, and the clock they read. -/
structure Timeline where
  /-- The callers. -/
  callers : Callers
  /-- The clock. -/
  clock : Clock

namespace Timeline

/-- Nobody is at the cache yet. -/
def start (c : TokenCache) (clock : Clock) : Timeline := ⟨.nobody c, clock⟩

/-- The cache. -/
abbrev cache (s : Timeline) : TokenCache := s.callers.cache

/-- Where each caller stands. -/
abbrev phases (s : Timeline) : List Phase := s.callers.phases

/-- Who holds the lock. -/
abbrev holder (s : Timeline) : Option Nat := s.callers.holder

/-- The token, if it is usable at the reading of the clock. -/
def usable? (s : Timeline) : Option AccessToken := s.cache.usable? s.clock.now

/-- The caller has its answer. -/
def Answered (s : Timeline) (caller : Nat) : Prop :=
  ∃ outcome, s.phases[caller]? = some (.answered outcome)

/-- What can happen. -/
inductive Event where
  /-- A caller comes. -/
  | arrive (d : Demand)
  /-- A waiting caller takes the lock. -/
  | enter (caller : Nat)
  /-- The fetch that is under way is answered. -/
  | settle (outcome : Outcome)
  /-- A token is put in place from outside. -/
  | install (t : AccessToken)
  /-- Somebody looks at the cache without asking for a token. -/
  | look
  /-- Somebody subscribes. -/
  | subscribe
  /-- A subscriber asks for its next notice. -/
  | receive (subscriber : Nat)
  /-- The clock is moved. -/
  | adjust (a : Clock.Adjustment)

/-- A move of the callers; the clock stands still. -/
def move? (s : Timeline) (m : Callers.Move) : Option Timeline :=
  (s.callers.move? m).map fun step => { s with callers := step.1 }

/-- **One event**, unless it is not possible in this state. -/
def step? (s : Timeline) : Event → Option Timeline
  | .arrive d => s.move? (.arrive s.clock.now d)
  | .enter caller => s.move? (.enter s.clock.now caller)
  | .settle outcome => s.move? (.settle outcome)
  | .install t => s.move? (.install t)
  | .look => some s
  | .subscribe => s.move? .subscribe
  | .receive i => s.move? (.receive i)
  | .adjust a => some { s with clock := s.clock.adjust a }

/-- The state after some events, if all of them were possible. -/
def run? (s : Timeline) : List Event → Option Timeline
  | [] => some s
  | e :: rest => (s.step? e).bind fun next => next.run? rest

/-! ## §2. What one event does. -/

/-- The same callers, with new phases. -/
def setPhases (s : Timeline) (phases : List Phase) : Timeline :=
  { s with callers := { s.callers with phases := phases } }

/-- The same callers at another cache. -/
def setCache (s : Timeline) (c : TokenCache) : Timeline :=
  { s with callers := { s.callers with cache := c } }

/-- Everything that can happen in one event. -/
inductive Step (s : Timeline) : Event → Timeline → Prop where
  /-- A caller comes, finds a usable token and has it. -/
  | hit {t : AccessToken} (found : s.usable? = some t) :
      Step s (.arrive .current) (s.setPhases (s.phases ++ [.answered (.ok t)]))
  /-- A caller comes and has to wait. -/
  | queue {d : Demand} (stale : d = .current → s.usable? = none) :
      Step s (.arrive d) (s.setPhases (s.phases ++ [.waiting d]))
  /-- A caller who waited finds a usable token and has it. -/
  | served {k : Nat} {t : AccessToken} (free : s.holder = none)
      (waits : s.phases[k]? = some (.waiting .current)) (found : s.usable? = some t) :
      Step s (.enter k) (s.setPhases (s.phases.set k (.answered (.ok t))))
  /-- A caller who waited takes the lock and begins a fetch. -/
  | fetch {k : Nat} {d : Demand} (free : s.holder = none)
      (waits : s.phases[k]? = some (.waiting d)) (stale : d = .current → s.usable? = none) :
      Step s (.enter k)
        ⟨{ s.callers with phases := s.phases.set k .fetching, holder := some k }, s.clock⟩
  /-- The fetch is answered, and the lock is free. -/
  | settle {k : Nat} (outcome : Outcome) (held : s.holder = some k) :
      Step s (.settle outcome)
        ⟨⟨s.cache.settle outcome, s.phases.set k (.answered outcome), none⟩, s.clock⟩
  /-- A token is put in place. -/
  | install (t : AccessToken) : Step s (.install t) (s.setCache (s.cache.install t))
  /-- A look changes nothing. -/
  | look : Step s .look s
  /-- A new subscriber. -/
  | subscribe :
      Step s .subscribe (s.setCache { s.cache with feed := s.cache.feed.subscribe.2 })
  /-- A subscriber reads on. -/
  | receive (i : Nat) :
      Step s (.receive i) (s.setCache { s.cache with feed := (s.cache.feed.receive i).2 })
  /-- The clock is moved. -/
  | adjust (a : Clock.Adjustment) : Step s (.adjust a) { s with clock := s.clock.adjust a }

theorem step_arrive (s : Timeline) (d : Demand) :
    ∃ next, s.step? (.arrive d) = some next ∧ Step s (.arrive d) next := by
  cases d with
  | fresh => exact ⟨_, rfl, .queue (fun h => by cases h)⟩
  | current =>
    cases found : s.usable? with
    | none =>
      refine ⟨_, ?_, .queue (fun _ => found)⟩
      unfold usable? at found
      simp only [step?, move?, Callers.move?, Callers.arrive, found]
      rfl
    | some t =>
      refine ⟨_, ?_, .hit found⟩
      unfold usable? at found
      simp only [step?, move?, Callers.move?, Callers.arrive, found]
      rfl

theorem step_enter {s next : Timeline} {k : Nat} (h : s.step? (.enter k) = some next) :
    Step s (.enter k) next := by
  simp only [step?, move?, Callers.move?, Callers.enter?, Option.map_eq_some_iff] at h
  obtain ⟨step, hstep, rfl⟩ := h
  split at hstep
  case h_2 => cases hstep
  case h_1 d free waits =>
    split at hstep
    case h_1 t found =>
      cases hstep
      exact .served free waits found
    case h_2 miss =>
      cases hstep
      refine .fetch free waits fun hd => ?_
      cases found : s.usable? with
      | none => rfl
      | some t => exact absurd found (miss t hd)

theorem enter_of_step {s next : Timeline} {k : Nat} (h : Step s (.enter k) next) :
    s.step? (.enter k) = some next := by
  cases h with
  | served free waits found =>
    unfold usable? at found
    simp only [step?, move?, Callers.move?, Callers.enter?, setPhases, free, waits, found]
    rfl
  | @fetch _ d free waits stale =>
    cases d with
    | fresh =>
      simp only [step?, move?, Callers.move?, Callers.enter?, free, waits]
      rfl
    | current =>
      have found := stale rfl
      unfold usable? at found
      simp only [step?, move?, Callers.move?, Callers.enter?, free, waits, found]
      rfl

/-- **Everything that one event can do.** -/
theorem step?_eq_some_iff {s next : Timeline} {e : Event} :
    s.step? e = some next ↔ Step s e next := by
  cases e with
  | arrive d =>
    -- who comes is never turned away: there is exactly one next state, and it is a step
    obtain ⟨made, hmade, hstep⟩ := step_arrive s d
    constructor
    · intro h
      rw [hmade] at h
      cases h
      exact hstep
    · intro h
      rw [hmade]
      cases hstep with
      | hit found =>
        cases h with
        | hit found' => rw [found] at found'; cases found'; rfl
        | queue stale => rw [stale rfl] at found; cases found
      | queue stale =>
        cases h with
        | hit found => rw [stale rfl] at found; cases found
        | queue _ => rfl
  | enter k => exact ⟨step_enter, enter_of_step⟩
  | settle outcome =>
    simp only [step?, move?, Callers.move?, Callers.settle?]
    constructor
    · intro h
      split at h
      case h_1 => cases h
      case h_2 k held =>
        cases h
        exact .settle outcome held
    · intro h
      cases h with
      | settle _ held => simp only [held]; rfl
  | install t => exact ⟨fun h => by cases h; exact .install t, fun h => by cases h; rfl⟩
  | look => exact ⟨fun h => by cases h; exact .look, fun h => by cases h; rfl⟩
  | subscribe => exact ⟨fun h => by cases h; exact .subscribe, fun h => by cases h; rfl⟩
  | receive i => exact ⟨fun h => by cases h; exact .receive i, fun h => by cases h; rfl⟩
  | adjust a => exact ⟨fun h => by cases h; exact .adjust a, fun h => by cases h; rfl⟩

/-! ## §3. What every event leaves as it is. -/

theorem lookup_append {α : Type} {l : List α} {x y : α} {k : Nat} :
    (l ++ [x])[k]? = some y ↔ l[k]? = some y ∨ (k = l.length ∧ x = y) := by
  rcases Nat.lt_trichotomy k l.length with h | h | h
  · rw [List.getElem?_append_left h]
    simp [Nat.ne_of_lt h]
  · subst h
    simp
  · rw [List.getElem?_eq_none (by simp; omega), List.getElem?_eq_none (by omega)]
    simp [Nat.ne_of_gt h]

theorem lookup_set {α : Type} {l : List α} {old x y : α} {j k : Nat} (hj : l[j]? = some old) :
    (l.set j x)[k]? = some y ↔ (k = j ∧ x = y) ∨ (k ≠ j ∧ l[k]? = some y) := by
  by_cases hk : k = j
  · subst hk
    rw [List.getElem?_set_self (List.getElem?_eq_some_iff.mp hj).1]
    simp
  · rw [List.getElem?_set_ne (Ne.symm hk)]
    simp [hk]

/-- Callers come and never go away. -/
theorem Step.length_le {s next : Timeline} {e : Event} (h : Step s e next) :
    s.phases.length ≤ next.phases.length := by
  cases h with
  | hit | queue => simp [setPhases, phases]
  | served | fetch | settle => simp [setPhases, phases]
  | _ => exact Nat.le_refl _

/-- No event changes how early tokens are given up. -/
theorem Step.threshold {s next : Timeline} {e : Event} (h : Step s e next) :
    next.cache.threshold = s.cache.threshold := by
  cases h with
  | settle outcome _ => cases outcome <;> rfl
  | _ => rfl

/-- Who waits has waited before, or has just come. -/
theorem Step.waits {s next : Timeline} {e : Event} {k : Nat} {d : Demand} (h : Step s e next)
    (waits : next.phases[k]? = some (.waiting d)) :
    s.phases[k]? = some (.waiting d) ∨ e = .arrive d := by
  cases h with
  | hit =>
    rcases lookup_append.mp waits with was | ⟨-, impossible⟩
    · exact .inl was
    · cases impossible
  | queue =>
    rcases lookup_append.mp waits with was | ⟨-, same⟩
    · exact .inl was
    · cases same
      exact .inr rfl
  | served _ old | fetch _ old =>
    rcases (lookup_set old).mp waits with ⟨-, impossible⟩ | ⟨-, was⟩
    · cases impossible
    · exact .inl was
  | @settle j outcome _ =>
    change (s.phases.set j (.answered outcome))[k]? = _ at waits
    rw [List.getElem?_set] at waits
    split at waits
    · split at waits <;> cases waits
    · exact .inl waits
  | _ => exact .inl waits

/-- A fetch that ends was under way. -/
theorem Step.settles {s next : Timeline} {outcome : Outcome} (h : Step s (.settle outcome) next) :
    ∃ k, s.holder = some k ∧
      next = ⟨⟨s.cache.settle outcome, s.phases.set k (.answered outcome), none⟩, s.clock⟩ := by
  cases h with
  | settle _ held => exact ⟨_, held, rfl⟩

/-! ## §4. Runs. -/

theorem run?_append (s : Timeline) (es later : List Event) :
    s.run? (es ++ later) = (s.run? es).bind fun mid => mid.run? later := by
  induction es generalizing s with
  | nil => rfl
  | cons e es ih =>
    show (s.step? e).bind _ = ((s.step? e).bind _).bind _
    cases s.step? e with
    | none => rfl
    | some next => exact ih next

/-- A run that is longer by one event. -/
theorem run?_snoc {s next : Timeline} {es : List Event} {e : Event} :
    s.run? (es ++ [e]) = some next ↔ ∃ mid, s.run? es = some mid ∧ Step mid e next := by
  rw [run?_append, Option.bind_eq_some_iff]
  constructor
  · rintro ⟨mid, hmid, hlast⟩
    obtain ⟨_, hstep, hend⟩ := Option.bind_eq_some_iff.mp hlast
    cases hend
    exact ⟨mid, hmid, step?_eq_some_iff.mp hstep⟩
  · rintro ⟨mid, hmid, hstep⟩
    exact ⟨mid, hmid, Option.bind_eq_some_iff.mpr ⟨next, step?_eq_some_iff.mpr hstep, rfl⟩⟩

/-- **Induction over a run, at its end**: what holds before anything happens and is kept by every
event holds after every run. -/
theorem run_induction {s₀ : Timeline} {P : List Event → Timeline → Prop} (nil : P [] s₀)
    (snoc : ∀ es s e next, s₀.run? es = some s → P es s → Step s e next → P (es ++ [e]) next)
    {es : List Event} {s : Timeline} (run : s₀.run? es = some s) : P es s := by
  induction es using List.reverseRecOn generalizing s with
  | nil => cases run; exact nil
  | append_singleton es e ih =>
    obtain ⟨mid, hmid, hstep⟩ := run?_snoc.mp run
    exact snoc es mid e s hmid (ih hmid) hstep

/-! ## §5. The lock. -/

/-- **Who holds the lock is who fetches**, and nobody else does. -/
def Locked (s : Timeline) : Prop := ∀ k, s.phases[k]? = some .fetching ↔ s.holder = some k

theorem locked_start (c : TokenCache) (clock : Clock) : (start c clock).Locked := by
  intro k
  simp [start, Callers.nobody, phases, holder]

theorem Step.locked {s next : Timeline} {e : Event} (h : Step s e next) (locked : s.Locked) :
    next.Locked := by
  intro j
  cases h with
  | hit | queue =>
    show (s.phases ++ [_])[j]? = _ ↔ s.holder = some j
    rw [lookup_append, ← locked j]
    simp
  | @served k _ free waits =>
    show (s.phases.set k _)[j]? = _ ↔ s.holder = some j
    rw [lookup_set waits, ← locked j]
    by_cases hj : j = k
    · subst hj
      simp [waits]
    · simp [hj]
  | @fetch k d free waits =>
    show (s.phases.set k .fetching)[j]? = _ ↔ some k = some j
    rw [lookup_set waits, locked j, free]
    simp [eq_comm]
  | @settle k outcome held =>
    show (s.phases.set k (.answered outcome))[j]? = _ ↔ none = some j
    rw [lookup_set ((locked k).mpr held), locked j, held]
    simp [eq_comm]
  | _ => exact locked j

/-- In every run the lock is with who fetches. -/
theorem Locked.run {s next : Timeline} {es : List Event} (locked : s.Locked)
    (run : s.run? es = some next) : next.Locked :=
  run_induction (P := fun _ s => s.Locked) locked
    (fun _ _ _ _ _ ih step => step.locked ih) run

/-! ## §6. Answers. -/

/-- An answer is never taken back: only who waits or fetches is given one. -/
theorem Step.answered {s next : Timeline} {e : Event} {k : Nat} {outcome : Outcome}
    (h : Step s e next) (locked : s.Locked) (done : s.phases[k]? = some (.answered outcome)) :
    next.phases[k]? = some (.answered outcome) := by
  cases h with
  | hit | queue => exact lookup_append.mpr (.inl done)
  | @served j _ _ waits _ | @fetch j _ _ waits _ =>
    -- who goes on had no answer, so it is somebody else
    have hne : k ≠ j := fun he => by rw [he, waits] at done; cases done
    exact (lookup_set waits).mpr (.inr ⟨hne, done⟩)
  | @settle j _ held =>
    have fetching := (locked j).mpr held
    have hne : k ≠ j := fun he => by rw [he, fetching] at done; cases done
    exact (lookup_set fetching).mpr (.inr ⟨hne, done⟩)
  | _ => exact done

/-- Along a run an answer is never taken back. -/
theorem answered_stays {s next : Timeline} {es : List Event} {k : Nat} {outcome : Outcome}
    (run : s.run? es = some next) (locked : s.Locked)
    (done : s.phases[k]? = some (.answered outcome)) :
    next.phases[k]? = some (.answered outcome) :=
  (run_induction (P := fun _ s => s.Locked ∧ s.phases[k]? = some (.answered outcome))
    ⟨locked, done⟩
    (fun _ _ _ _ _ ih step => ⟨step.locked ih.1, step.answered ih.1 ih.2⟩) run).2

theorem Answered.stays {s next : Timeline} {es : List Event} {k : Nat} (done : s.Answered k)
    (locked : s.Locked) (run : s.run? es = some next) : next.Answered k := by
  obtain ⟨outcome, h⟩ := done
  exact ⟨outcome, answered_stays run locked h⟩

theorem Answered.lt {s : Timeline} {k : Nat} (done : s.Answered k) : k < s.phases.length := by
  obtain ⟨_, h⟩ := done
  exact (List.getElem?_eq_some_iff.mp h).1

end Timeline

end WorkloadIdentity
