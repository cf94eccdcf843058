/-
  WorkloadIdentity.Proofs.Cache.SingleFlight ──── **ONE FETCH AT A TIME, AND ONE IS ENOUGH.**

  Whoever fetches holds the lock, so no two fetch at once; and whoever came for a current token
  begins a fetch only in a state in which the cache has none that is usable.  When callers come
  together at such a cache, each failure is the answer of the one caller whose fetch failed, the
  first success is the answer of everybody else, and nobody fetches after it.

  The counting rests on two invariants, one before the first success and one after it:
    * `Trying` — nothing is usable, and only those have an answer whose own fetch has ended
    * `Landed` — the new token is usable, the lock is free, and whoever else is answered has it

  Main result:
    * `Timeline.single_flight` — exclusion, the moment at which a fetch begins, and the count
-/
import WorkloadIdentity.Proofs.Cache.Fetches
import Mathlib.Data.List.Perm.Subperm

namespace WorkloadIdentity

namespace Timeline

/-! ## §1. When a fetch begins. -/

theorem threshold_of_run {s next : Timeline} {es : List Event} (run : s.run? es = some next) :
    next.cache.threshold = s.cache.threshold :=
  run_induction (P := fun _ next => next.cache.threshold = s.cache.threshold) rfl
    (fun _ _ _ _ _ ih step => step.threshold.trans ih) run

/-- Nothing is usable exactly if there is no token, or one that is not usable any more. -/
theorem usable?_eq_none_iff {s : Timeline} :
    s.usable? = none ↔
      ∀ t, s.cache.stored = some t → t.isUsable s.clock.now s.cache.threshold = false := by
  unfold usable? TokenCache.usable?
  rw [Option.filter_eq_none_iff]
  constructor
  · intro stale t held
    exact Bool.eq_false_iff.mpr (stale t held)
  · intro stale t held usable
    rw [stale t held] at usable
    cases usable

/-- **A fetch begins when its caller takes the free lock**; one for a current token begins only
when nothing is usable. -/
theorem Step.begins {es : List Event} {s next : Timeline} {e : Event} {k : Nat}
    (h : Step s e next) (present : Present es s) (before : s.phases[k]? ≠ some .fetching)
    (after : next.phases[k]? = some .fetching) :
    s.holder = none ∧ next.holder = some k ∧
      ((demands es)[k]? = some .current → s.usable? = none) := by
  have locked : next.Locked := h.locked present.locked
  have held : next.holder = some k := (locked k).mp after
  rcases h.holders with ⟨same, -, -, -⟩ | ⟨j, d, -, waits, stale, free, taken, -, -⟩
    | ⟨j, outcome, -, -, free, -, -⟩
  · -- who holds the lock after the event held it before, and was fetching already
    rw [same] at held
    exact absurd ((present.locked k).mpr held) before
  · rw [taken] at held
    cases held
    refine ⟨free, taken, fun current => stale ?_⟩
    have wanted := present.waits k d waits
    rw [current] at wanted
    exact (Option.some.inj wanted).symm
  · rw [free] at held
    cases held

/-- Whoever has no answer can go on: the fetch that is under way can end, or else the lock is free
to take. -/
theorem goes_on {s : Timeline} {k : Nat} (locked : s.Locked) (come : k < s.phases.length)
    (unanswered : ¬ s.Answered k) (outcome : Outcome) :
    (∃ next, Step s (.settle outcome) next) ∨ ∃ next, Step s (.enter k) next := by
  cases held : s.holder with
  | some j => exact .inl ⟨_, .settle outcome held⟩
  | none =>
    right
    have phase : s.phases[k]? = some s.phases[k] := List.getElem?_eq_getElem come
    cases hp : s.phases[k] with
    | answered done =>
      rw [hp] at phase
      exact absurd ⟨done, phase⟩ unanswered
    | fetching =>
      -- then it would hold the lock, which is free
      rw [hp] at phase
      have holds := (locked k).mp phase
      rw [held] at holds
      cases holds
    | waiting d =>
      rw [hp] at phase
      cases found : s.usable? with
      | none => exact ⟨_, .fetch held phase (fun _ => found)⟩
      | some t =>
        cases d with
        | current => exact ⟨_, .served held phase found⟩
        | fresh => exact ⟨_, .fetch held phase (fun h => by cases h)⟩

/-! ## §2. Callers who come together. -/

/-- Callers come for a current token and are answered; nobody installs one, nobody asks for a
fresh one, and the clock stands still. -/
def PlainCalls (s : Timeline) : Event → Prop
  | .arrive .fresh | .install _ => False
  | .adjust a => s.clock.adjust a = s.clock
  | _ => True

/-- No fetch has brought a token yet. -/
structure Trying (s₀ : Timeline) (es : List Event) (s : Timeline) : Prop where
  /-- The clock stands still. -/
  still : s.clock = s₀.clock
  /-- Nothing is usable. -/
  stale : s.usable? = none
  /-- Only those have an answer whose own fetch has ended. -/
  failed : ∀ k, s.Answered k → k ∈ finishers s₀ es

/-- A fetch has brought a token. -/
structure Landed (t : AccessToken) (s₀ : Timeline) (es : List Event) (s : Timeline) : Prop where
  /-- The token is usable. -/
  found : s.usable? = some t
  /-- Nobody fetches. -/
  free : s.holder = none
  /-- Whoever has an answer and did not fetch has that token. -/
  shared : ∀ k outcome, s.phases[k]? = some (.answered outcome) →
    k ∈ finishers s₀ es ∨ outcome = .ok t

/-- Among plain calls only the end of a fetch changes what is usable. -/
theorem Step.usable?_eq {s next : Timeline} {e : Event} (h : Step s e next)
    (plain : PlainCalls s e) (failure : ∀ t, e ≠ .settle (.ok t)) :
    next.usable? = s.usable? ∧ next.clock = s.clock := by
  cases h with
  | @settle k outcome held =>
    cases outcome with
    | ok t => exact absurd rfl (failure t)
    | error e => exact ⟨rfl, rfl⟩
  | install => exact plain.elim
  | adjust a =>
    have stands : s.clock.adjust a = s.clock := plain
    refine ⟨?_, stands⟩
    show s.cache.usable? (s.clock.adjust a).now = s.cache.usable? s.clock.now
    rw [stands]
  | _ => exact ⟨rfl, rfl⟩

/-- Whoever has ended a fetch by the end of an event had done so before, or held the lock. -/
theorem mem_finishers_snoc {s₀ s next : Timeline} {es : List Event} {e : Event} {k : Nat}
    (run : s₀.run? es = some s) (step : Step s e next)
    (h : k ∈ finishers s₀ es ∨ (s.holder = some k ∧ next.holder = none)) :
    k ∈ finishers s₀ (es ++ [e]) := by
  rw [finishers_snoc run step, List.mem_append]
  refine h.imp_right fun ⟨held, free⟩ => ?_
  unfold oldHolder
  rw [if_pos free, held]
  simp

/-- **Before the first success**: an event that does not end a fetch leaves it so, and so does a
failure. -/
theorem Trying.step {s₀ s next : Timeline} {es : List Event} {e : Event} (h : Trying s₀ es s)
    (locked : s.Locked) (run : s₀.run? es = some s) (plain : PlainCalls s e)
    (failure : ∀ t, e ≠ .settle (.ok t)) (step : Step s e next) :
    Trying s₀ (es ++ [e]) next := by
  obtain ⟨usable, clock⟩ := step.usable?_eq plain failure
  refine ⟨clock.trans h.still, usable.trans h.stale, ?_⟩
  rintro k ⟨outcome, done⟩
  apply mem_finishers_snoc run step
  rcases step.answers locked done with before | ⟨t, -, found, -⟩ | ⟨rfl, held⟩
  · exact .inl (h.failed k ⟨outcome, before⟩)
  · -- there is nothing that anybody could be served
    rw [h.stale] at found
    cases found
  · exact .inr ⟨held, step.frees⟩

/-- **The first success.** -/
theorem Trying.lands {s₀ s next : Timeline} {es : List Event} {t : AccessToken}
    (h : Trying s₀ es s) (locked : s.Locked) (run : s₀.run? es = some s)
    (usable : t.isUsable s.clock.now s.cache.threshold = true)
    (step : Step s (.settle (.ok t)) next) : Landed t s₀ (es ++ [.settle (.ok t)]) next := by
  refine ⟨?_, step.frees, ?_⟩
  · cases step with
    | settle =>
      show (some t).filter (·.isUsable s.clock.now s.cache.threshold) = some t
      exact Option.filter_some_pos usable
  · intro k outcome done
    rcases step.answers locked done with before | ⟨u, -, found, -⟩ | ⟨same, -⟩
    · exact .inl (mem_finishers_snoc run step (.inl (h.failed k ⟨outcome, before⟩)))
    · rw [h.stale] at found
      cases found
    · cases same
      exact .inr rfl

/-- **After it** nobody fetches, and whoever is answered has the new token. -/
theorem Landed.step {t : AccessToken} {s₀ s next : Timeline} {es : List Event} {e : Event}
    (h : Landed t s₀ es s) (locked : s.Locked)
    (calm : ∀ k : Nat, s.phases[k]? ≠ some (Phase.waiting .fresh))
    (run : s₀.run? es = some s) (plain : PlainCalls s e) (step : Step s e next) :
    Landed t s₀ (es ++ [e]) next ∧ e.outcome? = none := by
  rcases step.holders with ⟨same, quiet, -, -⟩ | ⟨k, d, -, waits, stale, -⟩
    | ⟨k, outcome, -, held, -⟩
  · have failure : ∀ t, e ≠ .settle (.ok t) := by
      rintro u rfl
      cases quiet
    have usable := (step.usable?_eq plain failure).1
    refine ⟨⟨usable.trans h.found, same.trans h.free, ?_⟩, quiet⟩
    intro k outcome done
    rcases step.answers locked done with before | ⟨u, rfl, found, -⟩ | ⟨rfl, -⟩
    · exact (h.shared k outcome before).imp_left fun ended =>
        mem_finishers_snoc run step (.inl ended)
    · -- whoever is served finds the new token
      rw [h.found] at found
      cases found
      exact .inr rfl
    · cases quiet
  · -- whoever takes the lock would find the new token
    cases d with
    | fresh => exact absurd waits (calm k)
    | current =>
      have found := h.found
      rw [stale rfl] at found
      cases found
  · rw [h.free] at held
    cases held

/-! ## §3. The count. -/

/-- Nobody who comes for a current token only waits for a fresh one. -/
theorem calm_of_plain {s₀ s : Timeline} {es : List Event} (run : s₀.run? es = some s)
    (present : Present es s) (plain : Along PlainCalls s₀ es) (k : Nat) :
    s.phases[k]? ≠ some (Phase.waiting .fresh) := by
  intro waits
  have wanted := List.mem_of_getElem? (present.waits k .fresh waits)
  -- no event of the run brings a caller who wants a fresh token
  have none_wanted : Along PlainCalls s₀ es → ∀ d ∈ demands es, d = .current := by
    refine run_induction (P := fun es _ => Along PlainCalls s₀ es → ∀ d ∈ demands es, d = .current)
      (fun _ d hd => by cases hd) ?_ run
    intro es mid e next hrun ih _ plain d hd
    obtain ⟨earlier, last⟩ := (along_snoc hrun).mp plain
    rw [demands_snoc, List.mem_append] at hd
    rcases hd with before | now
    · exact ih earlier d before
    · cases e with
      | arrive d' =>
        cases d' with
        | fresh => exact last.elim
        | current => exact List.mem_singleton.mp now
      | _ => cases now
  cases none_wanted plain .fresh wanted

/-- What callers who come together have after any run: either every fetch has failed so far, or
exactly the last one has not. -/
theorem trying_or_landed {c : TokenCache} {clock : Clock} {es : List Event} {s : Timeline}
    {script : Nat → Outcome} {refusals : List AuthError} {t : AccessToken}
    (run : (start c clock).run? es = some s) (stale : c.usable? clock.now = none)
    (plain : Along PlainCalls (start c clock) es) (follows : Follows script es)
    (failing : ∀ (i : Nat) (e : AuthError), refusals[i]? = some e → script i = .error e)
    (success : script refusals.length = .ok t)
    (usable : t.isUsable clock.now c.threshold = true) :
    (Trying (start c clock) es s ∧ (outcomes es).length ≤ refusals.length) ∨
    (Landed t (start c clock) es s ∧ (outcomes es).length = refusals.length + 1) := by
  refine run_induction (P := fun es s => Along PlainCalls (start c clock) es →
    Follows script es →
    (Trying (start c clock) es s ∧ (outcomes es).length ≤ refusals.length) ∨
    (Landed t (start c clock) es s ∧ (outcomes es).length = refusals.length + 1)) ?_ ?_ run plain
    follows
  · intro _ _
    refine .inl ⟨⟨rfl, stale, ?_⟩, Nat.zero_le _⟩
    rintro k ⟨outcome, done⟩
    simp [start, Callers.nobody, phases] at done
  · intro es mid e next hrun ih step plain follows
    obtain ⟨earlier, last⟩ := (along_snoc hrun).mp plain
    have present := present_of_run hrun
    rcases ih earlier follows.init with ⟨trying, count⟩ | ⟨landed, count⟩
    · -- before the first success it matters whether a fetch ends, and with what
      by_cases ends : ∃ outcome, e = .settle outcome
      · obtain ⟨outcome, rfl⟩ := ends
        have entry := follows.last
        rcases Nat.lt_or_ge (outcomes es).length refusals.length with more | enough
        · -- one of the failures
          have refusal := failing _ _ (List.getElem?_eq_getElem more)
          rw [entry] at refusal
          subst refusal
          refine .inl ⟨trying.step present.locked hrun last (by simp) step, ?_⟩
          rw [outcomes_snoc, List.length_append]
          exact more
        · -- the success that follows them
          have whole : (outcomes es).length = refusals.length := Nat.le_antisymm count enough
          rw [whole, success] at entry
          subst entry
          refine .inr ⟨trying.lands present.locked hrun ?_ step, ?_⟩
          · rw [trying.still, threshold_of_run hrun]
            exact usable
          · rw [outcomes_snoc, List.length_append, whole]
            rfl
      · refine .inl ⟨trying.step present.locked hrun last (fun t he => ends ⟨_, he⟩) step, ?_⟩
        have quiet : e.outcome? = none := by
          cases e with
          | settle outcome => exact absurd ⟨outcome, rfl⟩ ends
          | _ => rfl
        rw [outcomes_snoc, quiet, Option.toList_none, List.append_nil]
        exact count
    · -- after it no fetch ends any more
      obtain ⟨landed', quiet⟩ :=
        landed.step present.locked (calm_of_plain hrun present earlier) hrun last step
      refine .inr ⟨landed', ?_⟩
      rw [outcomes_snoc, quiet, Option.toList_none, List.append_nil]
      exact count

/-- Fetches that follow a script up to its first success have brought just that. -/
theorem outcomes_of_script {es : List Event} {script : Nat → Outcome} {refusals : List AuthError}
    {t : AccessToken} (follows : Follows script es)
    (failing : ∀ (i : Nat) (e : AuthError), refusals[i]? = some e → script i = .error e)
    (success : script refusals.length = .ok t)
    (count : (outcomes es).length = refusals.length + 1) :
    outcomes es = refusals.map Except.error ++ [.ok t] := by
  refine List.ext_getElem? fun i => ?_
  rcases Nat.lt_trichotomy i refusals.length with hi | hi | hi
  · have within : i < (outcomes es).length := by omega
    have entry := follows i _ (List.getElem?_eq_getElem within)
    rw [failing i _ (List.getElem?_eq_getElem hi)] at entry
    rw [List.getElem?_eq_getElem within, List.getElem?_append_left (by simpa using hi),
      List.getElem?_map, List.getElem?_eq_getElem hi, ← entry]
    rfl
  · subst hi
    have within : refusals.length < (outcomes es).length := by omega
    have entry := follows _ _ (List.getElem?_eq_getElem within)
    rw [success] at entry
    rw [List.getElem?_eq_getElem within, ← entry]
    simp
  · rw [List.getElem?_eq_none (by omega), List.getElem?_eq_none (by simp; omega)]

/-- As many callers are left as there are numbers that a list without repetition leaves out. -/
theorem length_others {n : Nat} {failed : List Nat} (once : failed.Nodup)
    (come : ∀ k ∈ failed, k < n) :
    ((List.range n).filter (· ∉ failed)).length = n - failed.length := by
  have same : ((List.range n).filter (· ∈ failed)).length = failed.length := by
    refine (List.perm_ext_iff_of_nodup (List.nodup_range.filter _) once |>.mpr ?_).length_eq
    intro k
    rw [List.mem_filter, List.mem_range, decide_eq_true_eq]
    exact ⟨fun h => h.2, fun h => ⟨come k h, h⟩⟩
  have split := List.length_eq_length_filter_add (l := List.range n) (· ∈ failed)
  rw [List.length_range, same] at split
  have turned : (List.range n).filter (· ∉ failed)
      = (List.range n).filter (fun k => !decide (k ∈ failed)) := by
    refine List.filter_congr fun k _ => ?_
    simp
  rw [turned]
  omega

/-- **One fetch at a time, and one is enough.**  In every reachable state at most one caller
fetches, and that one holds the lock; whoever came for a current token begins a fetch only when the
cache is empty or its token is not usable; and whoever has no answer can go on.  When callers come
together at such a cache and the clock stands still, then after some refusals and one usable token
there have been exactly that many fetches: each refusal is the answer of the caller whose fetch
brought it, and the token that of all the others. -/
theorem single_flight {c : TokenCache} {clock : Clock} {es : List Event} {s : Timeline}
    (run : (start c clock).run? es = some s) :
    (∀ j k : Nat, s.phases[j]? = some .fetching → s.phases[k]? = some .fetching → j = k) ∧
    (∀ k : Nat, s.phases[k]? = some .fetching ↔ s.holder = some k) ∧
    (∀ (e : Event) (next : Timeline) (k : Nat), Step s e next →
      s.phases[k]? ≠ some .fetching → next.phases[k]? = some .fetching →
      s.holder = none ∧ next.holder = some k ∧
        ((demands es)[k]? = some .current → ∀ t, s.cache.stored = some t →
          t.isUsable s.clock.now s.cache.threshold = false)) ∧
    (∀ k < s.phases.length, ¬ s.Answered k → ∀ outcome,
      (∃ next, Step s (.settle outcome) next) ∨ ∃ next, Step s (.enter k) next) ∧
    (∀ (n : Nat) (script : Nat → Outcome) (refusals : List AuthError) (t : AccessToken),
      (demands es).length = n → c.usable? clock.now = none →
      Along PlainCalls (start c clock) es → Follows script es →
      (∀ k < n, s.Answered k) → refusals.length < n →
      (∀ (i : Nat) (e : AuthError), refusals[i]? = some e → script i = .error e) →
      script refusals.length = .ok t → t.isUsable clock.now c.threshold = true →
      let failed := (fetchers (start c clock) es).take refusals.length
      outcomes es = refusals.map Except.error ++ [.ok t] ∧
      (fetchers (start c clock) es).Nodup ∧
      (fetchers (start c clock) es).length = refusals.length + 1 ∧
      (∀ (i : Nat) (e : AuthError), refusals[i]? = some e →
        ∃ k, failed[i]? = some k ∧ s.phases[k]? = some (.answered (.error e))) ∧
      (∀ k < n, k ∉ failed → s.phases[k]? = some (.answered (.ok t))) ∧
      ((List.range n).filter (· ∉ failed)).length = n - refusals.length) := by
  have present := present_of_run run
  have free : (start c clock).holder = none := rfl
  have lockedStart := locked_start c clock
  refine ⟨?_, present.locked, ?_, fun k come => goes_on present.locked come, ?_⟩
  · intro j k fetching fetching'
    have holds := (present.locked j).mp fetching
    rw [(present.locked k).mp fetching'] at holds
    exact (Option.some.inj holds).symm
  · intro e next k step before after
    obtain ⟨unlocked, taken, stale⟩ := step.begins present before after
    exact ⟨unlocked, taken, fun current => usable?_eq_none_iff.mp (stale current)⟩
  · intro n script refusals t come stale plain follows complete fewer failing success usable failed
    obtain ⟨began, paired⟩ := holders_of_run free run
    have once := fetchers_nodup free lockedStart run
    rcases trying_or_landed run stale plain follows failing success usable with
      ⟨trying, count⟩ | ⟨landed, count⟩
    · -- everybody would have fetched, but there were fewer fetches than callers
      have everyone : List.range n ⊆ finishers (start c clock) es := by
        intro k hk
        exact trying.failed k (complete k (List.mem_range.mp hk))
      have many := (List.subperm_of_subset List.nodup_range everyone).length_le
      rw [List.length_range] at many
      omega
    · rw [landed.free, Option.toList_none, List.append_nil] at began
      have brought := outcomes_of_script follows failing success count
      have long : (fetchers (start c clock) es).length = refusals.length + 1 := by
        rw [began, paired, count]
      refine ⟨brought, once, long, ?_, ?_, ?_⟩
      · intro i e hi
        have below : i < refusals.length := (List.getElem?_eq_some_iff.mp hi).1
        have within : i < (fetchers (start c clock) es).length := by omega
        have began' := List.getElem?_eq_getElem within
        have refused : (outcomes es)[i]? = some (.error e) := by
          rw [brought, List.getElem?_append_left (by simpa using below), List.getElem?_map, hi]
          rfl
        refine ⟨_, ?_, answered_of_fetch free lockedStart run began' refused⟩
        show ((fetchers (start c clock) es).take refusals.length)[i]? = _
        rw [List.getElem?_take_of_lt below]
        exact began'
      · intro k hk other
        obtain ⟨outcome, done⟩ := complete k hk
        rcases landed.shared k outcome done with finished | same
        · -- of those who fetched only the last is left
          rw [← began] at finished
          obtain ⟨i, hi, rfl⟩ := List.mem_iff_getElem.mp finished
          have last : i = refusals.length := by
            refine Nat.le_antisymm (by omega) (Nat.le_of_not_lt fun below => other ?_)
            exact List.mem_take_iff_getElem.mpr ⟨i, by omega, rfl⟩
          subst last
          refine answered_of_fetch free lockedStart run (List.getElem?_eq_getElem hi) ?_
          rw [brought]
          simp
        · rw [same] at done
          exact done
      · have below : ∀ k ∈ failed, k < n := by
          intro k hk
          have length := lt_of_begun free lockedStart run (List.mem_of_mem_take hk)
          rw [present.come] at length
          omega
        rw [length_others (once.sublist (List.take_sublist _ _)) below, List.length_take, long]
        omega

/-- Three callers find an expired token.  The second of them takes the lock first and is refused;
then the first one brings a token, which the third has after waiting and a fourth at once. -/
theorem single_flight_behind_refusal :
    let old : AccessToken := .ofParts "old" (some 0)
    let t : AccessToken := .ofParts "t" none
    let refusal : AuthError := .ofMessage true "busy"
    let script : Nat → Outcome := fun i => if i = 0 then .error refusal else .ok t
    let c : TokenCache := (TokenCache.empty ⟨300, 0⟩).install old
    let es : List Event :=
      [.arrive .current, .arrive .current, .enter 1, .arrive .current, .look,
        .settle (.error refusal), .enter 0, .subscribe, .settle (.ok t), .enter 2, .arrive .current]
    ∃ s, (start c ⟨0⟩).run? es = some s ∧ c.usable? 0 = none ∧
      Along PlainCalls (start c ⟨0⟩) es ∧ Follows script es ∧ (∀ k < 4, s.Answered k) ∧
      t.isUsable 0 c.threshold = true ∧
      outcomes es = [.error refusal, .ok t] ∧ fetchers (start c ⟨0⟩) es = [1, 0] ∧
      s.phases[1]? = some (.answered (.error refusal)) ∧
      (∀ k < 4, k ≠ 1 → s.phases[k]? = some (.answered (.ok t))) := by
  intro old t refusal script c es
  have plain : Along PlainCalls (start c ⟨0⟩) es := along_of_forall (by simp [es, PlainCalls]) _
  have follows : Follows script es := by
    intro i outcome h
    match i with
    | 0 => cases h; rfl
    | 1 => cases h; rfl
  have failing : ∀ (i : Nat) (e : AuthError), [refusal][i]? = some e → script i = .error e := by
    intro i e h
    match i with
    | 0 => cases h; rfl
  obtain ⟨s, run, phases⟩ : ∃ s, (start c ⟨0⟩).run? es = some s ∧ s.phases =
      [.answered (.ok t), .answered (.error refusal), .answered (.ok t), .answered (.ok t)] :=
    ⟨_, rfl, rfl⟩
  have complete : ∀ k < 4, s.Answered k := by
    intro k hk
    unfold Answered
    rw [phases]
    match k with
    | 0 => exact ⟨_, rfl⟩
    | 1 => exact ⟨_, rfl⟩
    | 2 => exact ⟨_, rfl⟩
    | 3 => exact ⟨_, rfl⟩
  have stale : c.usable? 0 = none := by decide
  have usable : t.isUsable 0 c.threshold = true := by decide
  obtain ⟨-, -, -, -, together⟩ := single_flight run
  obtain ⟨brought, -, -, refused, shared, -⟩ := together 4 script [refusal] t rfl stale plain
    follows complete (by decide) failing rfl usable
  have began : fetchers (start c ⟨0⟩) es = [1, 0] := rfl
  rw [began] at refused shared
  refine ⟨s, run, stale, plain, follows, complete, usable, brought, began, ?_, ?_⟩
  · obtain ⟨k, hk, done⟩ := refused 0 refusal rfl
    cases hk
    exact done
  · intro k hk other
    exact shared k hk (by simpa using other)

end Timeline

end WorkloadIdentity
