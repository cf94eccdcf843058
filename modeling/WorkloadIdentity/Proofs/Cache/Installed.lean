/-
  WorkloadIdentity.Proofs.Cache.Installed ──── **HOW LONG AN INSTALLED TOKEN LASTS.**

  Whoever installs a token does not take the lock.  A fetch that is under way at that moment ends
  later and writes over the token, and a forced fetch that waits for the lock will do the same.
  If there is neither, nobody writes until somebody installs again or asks for a fresh token.

  Main results:
    * `Timeline.serves_iff` — after any run, a usable token that was installed is still served
      exactly if no other was written last
    * `Timeline.Kept.step`, `Timeline.Kept.run` — with the lock free and no forced fetch waiting,
      the token stays through quiet events
    * `Timeline.installed_lasts_iff` — both, and the exact condition under which it stays
-/
import WorkloadIdentity.Proofs.Cache.History

namespace WorkloadIdentity

/-- A token other than a given one. -/
def AccessToken.rival (t : AccessToken) : AccessToken := .ofParts (t.token ++ "+") none

theorem AccessToken.rival_ne (t : AccessToken) : t.rival ≠ t := by
  intro same
  have lengths := congrArg (fun u : AccessToken => u.token.length) same
  simp [rival, AccessToken.ofParts] at lengths

namespace Timeline

/-! ## §1. What it means that a token lasts. -/

/-- The cache holds a token, and a caller who comes has it at once. -/
def Serves (t : AccessToken) (s : Timeline) : Prop :=
  s.cache.stored = some t ∧
    s.step? (.arrive .current) = some (s.setPhases (s.phases ++ [.answered (.ok t)]))

/-- A token is usable, and nobody installs another or comes for a fresh one. -/
def Quiet (t : AccessToken) (s : Timeline) (e : Event) : Prop :=
  t.isUsable s.clock.now s.cache.threshold = true ∧
    match e with
    | .install _ | .arrive .fresh => False
    | _ => True

/-- **A token lasts**: it is served for as long as it stays usable, until somebody installs
another or comes for a fresh one. -/
def Lasts (t : AccessToken) (s : Timeline) : Prop :=
  ∀ es next, s.run? es = some next → Along (Quiet t) s es →
    t.isUsable next.clock.now next.cache.threshold = true → Serves t next

theorem usable?_of_stored {s : Timeline} {t : AccessToken} (held : s.cache.stored = some t)
    (usable : t.isUsable s.clock.now s.cache.threshold = true) : s.usable? = some t := by
  unfold usable? TokenCache.usable?
  rw [held]
  exact Option.filter_some_pos usable

/-- A usable token in the cache is served. -/
theorem serves_of_stored {s : Timeline} {t : AccessToken} (held : s.cache.stored = some t)
    (usable : t.isUsable s.clock.now s.cache.threshold = true) : Serves t s :=
  ⟨held, step?_eq_some_iff.mpr (.hit (usable?_of_stored held usable))⟩

/-- **After any run** a token that was installed is still served, if it is usable, exactly if no
other was written last. -/
theorem serves_iff {s next : Timeline} {t : AccessToken} {es : List Event}
    (run : (s.setCache (s.cache.install t)).run? es = some next)
    (usable : t.isUsable next.clock.now next.cache.threshold = true) :
    Serves t next ↔ ∀ u, (writes es).getLast? = some u → u = t := by
  have stored : next.cache.stored = (writes es).getLast?.or (some t) := stored_of_run run
  constructor
  · rintro ⟨held, -⟩ u last
    rw [held, last] at stored
    cases stored
    rfl
  · intro last
    refine serves_of_stored ?_ usable
    rw [stored]
    cases h : (writes es).getLast? with
    | none => rfl
    | some u => exact congrArg some (last u h)

/-! ## §2. Nobody is on the way to another token. -/

/-- A token is in place, the lock is free, and no forced fetch waits for it. -/
structure Kept (t : AccessToken) (s : Timeline) : Prop where
  /-- The cache holds the token. -/
  held : s.cache.stored = some t
  /-- Nobody fetches. -/
  free : s.holder = none
  /-- Whoever waits is content with a current token. -/
  calm : ∀ k : Nat, s.phases[k]? ≠ some (Phase.waiting .fresh)

/-- **One quiet event leaves it so**: whoever takes the lock finds the token. -/
theorem Kept.step {t : AccessToken} {s next : Timeline} {e : Event} (h : Kept t s)
    (quiet : Quiet t s e) (step : Step s e next) : Kept t next := by
  obtain ⟨usable, peaceful⟩ := quiet
  have found := usable?_of_stored h.held usable
  -- nobody can begin a fetch, since the token would be found, and there is none to end
  cases step with
  | hit =>
    refine ⟨h.held, h.free, fun k waits => ?_⟩
    rcases lookup_append.mp waits with was | ⟨-, impossible⟩
    · exact h.calm k was
    · cases impossible
  | @queue d stale =>
    cases d with
    | fresh => exact peaceful.elim
    | current =>
      rw [stale rfl] at found
      cases found
  | served _ was =>
    refine ⟨h.held, h.free, fun k waits => ?_⟩
    rcases (lookup_set was).mp waits with ⟨-, impossible⟩ | ⟨-, old⟩
    · cases impossible
    · exact h.calm k old
  | @fetch k d _ waits stale =>
    cases d with
    | fresh => exact (h.calm k waits).elim
    | current =>
      rw [stale rfl] at found
      cases found
  | settle outcome busy =>
    rw [h.free] at busy
    cases busy
  | install => exact peaceful.elim
  | _ => exact ⟨h.held, h.free, h.calm⟩

theorem Kept.run {t : AccessToken} {s next : Timeline} {es : List Event} (h : Kept t s)
    (run : s.run? es = some next) (quiet : Along (Quiet t) s es) : Kept t next := by
  refine run_induction (P := fun es next => Along (Quiet t) s es → Kept t next)
    (fun _ => h) ?_ run quiet
  intro es mid e next hrun ih step quiet
  obtain ⟨earlier, last⟩ := (along_snoc hrun).mp quiet
  exact (ih earlier).step last step

theorem Kept.lasts {t : AccessToken} {s : Timeline} (h : Kept t s) : Lasts t s :=
  fun _ _ run quiet usable => serves_of_stored (h.run run quiet).held usable

/-! ## §3. Somebody is. -/

/-- A token does not last if a quiet run can write another. -/
theorem not_lasts {t : AccessToken} {s next : Timeline} {es : List Event}
    (run : s.run? es = some next) (quiet : Along (Quiet t) s es)
    (usable : t.isUsable next.clock.now next.cache.threshold = true)
    (held : next.cache.stored = some t.rival) : ¬ Lasts t s := by
  intro lasts
  have served := (lasts es next run quiet usable).1
  rw [held] at served
  exact t.rival_ne (Option.some.inj served)

/-- The end of the fetch that is under way writes over the token. -/
theorem not_lasts_of_fetch {t : AccessToken} {s : Timeline} {k : Nat} (held : s.holder = some k)
    (usable : t.isUsable s.clock.now s.cache.threshold = true) : ¬ Lasts t s := by
  have begun : s.run? [] = some s := rfl
  have ended : s.run? [.settle (.ok t.rival)] = some _ :=
    run?_snoc.mpr ⟨s, begun, .settle (.ok t.rival) held⟩
  exact not_lasts ended ((along_snoc begun).mpr ⟨trivial, usable, trivial⟩) usable rfl

/-- A forced fetch that waits for the free lock takes it, and its end writes over the token. -/
theorem not_lasts_of_forced {t : AccessToken} {s : Timeline} {k : Nat} (free : s.holder = none)
    (waits : s.phases[k]? = some (.waiting .fresh))
    (usable : t.isUsable s.clock.now s.cache.threshold = true) : ¬ Lasts t s := by
  have begun : s.run? [] = some s := rfl
  have entered : s.run? [.enter k] = some _ :=
    run?_snoc.mpr ⟨s, begun, .fetch free waits (fun h => by cases h)⟩
  have ended : s.run? [.enter k, .settle (.ok t.rival)] = some _ :=
    run?_snoc.mpr ⟨_, entered, .settle (.ok t.rival) rfl⟩
  have quiet : Along (Quiet t) s [.enter k] := (along_snoc begun).mpr ⟨trivial, usable, trivial⟩
  exact not_lasts ended ((along_snoc entered).mpr ⟨quiet, usable, trivial⟩) usable rfl

/-! ## §4. The exact condition. -/

/-- **An installed token lasts exactly if nobody is on the way to another.**  Whatever happens
after it was installed, it is served while it is usable unless another was written last; and it
lasts if and only if, when it was installed, no fetch was under way and no forced fetch waited. -/
theorem installed_lasts_iff {s : Timeline} {t : AccessToken}
    (usable : t.isUsable s.clock.now s.cache.threshold = true) :
    (∀ es next, (s.setCache (s.cache.install t)).run? es = some next →
      t.isUsable next.clock.now next.cache.threshold = true →
      (Serves t next ↔ ∀ u, (writes es).getLast? = some u → u = t)) ∧
    (Lasts t (s.setCache (s.cache.install t)) ↔
      s.holder = none ∧ ∀ k : Nat, s.phases[k]? ≠ some (Phase.waiting .fresh)) := by
  refine ⟨fun es next run still => serves_iff run still, ?_, ?_⟩
  · intro lasts
    cases held : s.holder with
    | some k =>
      exact absurd lasts (not_lasts_of_fetch (s := s.setCache (s.cache.install t)) held usable)
    | none =>
      refine ⟨rfl, fun k waits => ?_⟩
      exact not_lasts_of_forced (s := s.setCache (s.cache.install t)) held waits usable lasts
  · rintro ⟨free, calm⟩
    exact Kept.lasts ⟨rfl, free, calm⟩

/-- One caller has been served and is gone when a token is installed. -/
theorem installed_lasts_iff_at_rest :
    let t : AccessToken := .ofParts "installed" (some 3600000)
    let u : AccessToken := .ofParts "exchanged" none
    let es : List Event := [.arrive .current, .enter 0, .settle (.ok u), .adjust (.set 3299999)]
    ∃ s, (start (.empty ⟨300, 0⟩) ⟨0⟩).run? es = some s ∧
      t.isUsable s.clock.now s.cache.threshold = true ∧
      (∀ es next, (s.setCache (s.cache.install t)).run? es = some next →
        t.isUsable next.clock.now next.cache.threshold = true →
        (Serves t next ↔ ∀ u, (writes es).getLast? = some u → u = t)) ∧
      (Lasts t (s.setCache (s.cache.install t)) ↔
        s.holder = none ∧ ∀ k : Nat, s.phases[k]? ≠ some (Phase.waiting .fresh)) := by
  intro t u es
  exact ⟨_, rfl, by decide, installed_lasts_iff (by decide)⟩

/-- A token is installed while an exchange is under way.  It stays usable, nobody installs another
or comes for a fresh one, and yet the next caller has the token of that exchange. -/
theorem installed_displaced :
    let t : AccessToken := .ofParts "installed" (some 3600000)
    let u : AccessToken := .ofParts "exchanged" none
    ∃ s next,
      (start (.empty ⟨300, 0⟩) ⟨0⟩).run? [.arrive .current, .enter 0, .install t] = some s ∧
      s.run? [.settle (.ok u)] = some next ∧ Along (Quiet t) s [.settle (.ok u)] ∧
      t.isUsable next.clock.now next.cache.threshold = true ∧ next.cache.stored = some u ∧
      next.step? (.arrive .current)
        = some (next.setPhases (next.phases ++ [.answered (.ok u)])) ∧ u ≠ t := by
  intro t u
  refine ⟨_, _, rfl, rfl, ⟨⟨?_, trivial⟩, trivial⟩, ?_, rfl, rfl, ?_⟩
  all_goals decide

end Timeline

end WorkloadIdentity
