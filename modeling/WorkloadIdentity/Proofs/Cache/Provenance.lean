/-
  WorkloadIdentity.Proofs.Cache.Provenance ──── **WHERE TOKENS AND ERRORS COME FROM.**

  The content of the cache is decided by the history of writes alone, and every answer can be
  traced to one event of the run: a token to the look at the cache that found it or to the end of
  its caller's own fetch, an error to the end of its caller's own fetch only.

  Main results:
    * `Timeline.origin_of_run` — every token that is handed out has an origin
    * `Timeline.refused_iff` — errors are answers of those whose own fetch failed
    * `Timeline.stored_stays` — a cache that holds a token is never empty again
    * `Timeline.answers_follow_history` — all of it, with what a failed fetch leaves behind
-/
import WorkloadIdentity.Proofs.Cache.Fetches

namespace WorkloadIdentity

namespace Timeline

/-! ## §1. Origins. -/

/-- An event takes place in a run, between two states. -/
def Happens (s : Timeline) (es : List Event) (before : Timeline) (e : Event)
    (after : Timeline) : Prop :=
  ∃ done later, es = done ++ e :: later ∧ s.run? done = some before ∧ Step before e after

theorem happens_last {s before after : Timeline} {es : List Event} {e : Event}
    (run : s.run? es = some before) (step : Step before e after) :
    Happens s (es ++ [e]) before e after := ⟨es, [], rfl, run, step⟩

theorem Happens.mono {s before after : Timeline} {es : List Event} {e last : Event}
    (h : Happens s es before e after) : Happens s (es ++ [last]) before e after := by
  obtain ⟨done, later, rfl, rest⟩ := h
  exact ⟨done, later ++ [last], by simp, rest⟩

/-- **Where the token of an answer comes from.** -/
inductive Origin (s : Timeline) (es : List Event) (k : Nat) (t : AccessToken) : Prop where
  /-- The caller came for a current token, and at an instant of its call the cache held this one
  and it was usable. -/
  | cache {before after : Timeline} {e : Event} (wanted : (demands es)[k]? = some .current)
      (moment : Happens s es before e after) (unanswered : ¬ before.Answered k)
      (come : k < after.phases.length) (held : before.cache.stored = some t)
      (usable : t.isUsable before.clock.now before.cache.threshold = true)
  /-- The caller's own fetch brought it, and then the cache held it. -/
  | fetch {before after : Timeline} (moment : Happens s es before (.settle (.ok t)) after)
      (own : before.holder = some k) (held : after.cache.stored = some t)

theorem Origin.mono {s : Timeline} {es : List Event} {e : Event} {k : Nat} {t : AccessToken}
    (h : Origin s es k t) : Origin s (es ++ [e]) k t := by
  cases h with
  | cache wanted moment unanswered come held usable =>
    exact .cache (demands_mono wanted) moment.mono unanswered come held usable
  | fetch moment own held => exact .fetch moment.mono own held

theorem stored_of_usable? {s : Timeline} {t : AccessToken} (found : s.usable? = some t) :
    s.cache.stored = some t ∧ t.isUsable s.clock.now s.cache.threshold = true := by
  unfold usable? TokenCache.usable? at found
  exact Option.filter_eq_some_iff.mp found

theorem Step.keeps {s next : Timeline} {t : AccessToken}
    (h : Step s (.settle (.ok t)) next) : next.cache.stored = some t := by
  cases h with
  | settle => rfl

/-- **Every token that is handed out has an origin.** -/
theorem origin_of_run {c : TokenCache} {clock : Clock} {es : List Event} {s : Timeline}
    (run : (start c clock).run? es = some s) {k : Nat} {t : AccessToken}
    (done : s.phases[k]? = some (.answered (.ok t))) : Origin (start c clock) es k t := by
  refine run_induction (P := fun es s => s.phases[k]? = some (.answered (.ok t)) →
    Origin (start c clock) es k t) ?_ ?_ run done
  · intro done
    simp [start, Callers.nobody, phases] at done
  · intro es mid e next hrun ih step done
    have present := present_of_run hrun
    rcases step.answers present.locked done with before | ⟨u, same, found, come, how⟩ | ⟨rfl, own⟩
    · exact (ih before).mono
    · -- the caller looked at the cache, when it came or after it had waited
      cases same
      obtain ⟨held, usable⟩ := stored_of_usable? found
      rcases how with ⟨rfl, rfl⟩ | ⟨rfl, waits⟩
      · -- a newcomer has the next number, so it cannot have had an answer before
        refine .cache (present.newcomer .current) (happens_last hrun step) ?_ come held usable
        intro answered
        exact absurd answered.lt (Nat.lt_irrefl _)
      · refine .cache (demands_mono (present.waits k .current waits)) (happens_last hrun step) ?_
          come held usable
        rintro ⟨outcome, answered⟩
        rw [waits] at answered
        cases answered
    · -- it was its own fetch that ended
      exact .fetch (happens_last hrun step) own step.keeps

/-! ## §2. Errors. -/

/-- **Errors are answers of those whose own fetch failed**, and of nobody else. -/
theorem refused_iff {c : TokenCache} {clock : Clock} {es : List Event} {s : Timeline}
    (run : (start c clock).run? es = some s) {k : Nat} {e : AuthError} :
    s.phases[k]? = some (.answered (.error e)) ↔
      (k, .error e) ∈ returns (start c clock) es := by
  constructor
  · intro done
    refine run_induction (P := fun es s => s.phases[k]? = some (.answered (.error e)) →
      (k, Except.error e) ∈ returns (start c clock) es) ?_ ?_ run done
    · intro done
      simp [start, Callers.nobody, phases] at done
    · intro es mid event next hrun ih step done
      rw [returns_snoc rfl hrun step, List.mem_append]
      rcases step.answers (present_of_run hrun).locked done with before | ⟨t, same, -⟩ | ⟨rfl, own⟩
      · exact .inl (ih before)
      · cases same
      · -- only the end of a fetch answers with an error, and it answers who held the lock
        right
        unfold oldHolder
        rw [if_pos step.frees, own]
        exact List.mem_singleton.mpr rfl
  · intro returned
    exact returned_of_run rfl (locked_start c clock) run returned

/-- A failed fetch changes nothing but the phase of its caller and the lock. -/
theorem Step.fails {s next : Timeline} {e : AuthError} (h : Step s (.settle (.error e)) next) :
    ∃ k, s.holder = some k ∧ next.holder = none ∧ next.cache = s.cache ∧ next.clock = s.clock ∧
      next.phases = s.phases.set k (.answered (.error e)) := by
  cases h with
  | @settle k _ held => exact ⟨k, held, rfl, rfl, rfl, rfl⟩

/-! ## §3. The content. -/

/-- **A cache that holds a token is never empty again.** -/
theorem stored_stays {s next : Timeline} {es : List Event} (run : s.run? es = some next)
    (full : s.cache.stored ≠ none) : next.cache.stored ≠ none := by
  have content := stored_of_run run
  -- either something was written, and that is there, or all is as it was
  cases last : (writes es).getLast? with
  | none =>
    rw [last, Option.none_or] at content
    rw [content]
    exact full
  | some t =>
    rw [last, Option.some_or] at content
    rw [content]
    exact Option.some_ne_none t

/-- **What the cache holds and what callers are told follows from the history.**  After any run the
cache holds the last token that was written; a fetch that fails writes nothing, announces nothing
and frees the lock, and its error goes to its own caller and to nobody else; a cache that holds a
token is never empty again; and every token that was handed out was either found usable in the
cache during the call, or brought and stored by the caller's own fetch. -/
theorem answers_follow_history {c : TokenCache} {clock : Clock} {es : List Event} {s : Timeline}
    (run : (start c clock).run? es = some s) :
    s.cache.stored = (writes es).getLast?.or c.stored ∧
    (∀ (e : AuthError) (next : Timeline), Step s (.settle (.error e)) next →
      ∃ k, s.holder = some k ∧ next.holder = none ∧ next.cache = s.cache ∧
        next.clock = s.clock ∧ next.phases = s.phases.set k (.answered (.error e))) ∧
    (∀ (k : Nat) (e : AuthError), s.phases[k]? = some (.answered (.error e)) ↔
      (k, .error e) ∈ returns (start c clock) es) ∧
    (∀ (later : List Event) (next : Timeline), s.run? later = some next →
      s.cache.stored ≠ none → next.cache.stored ≠ none) ∧
    (∀ (k : Nat) (t : AccessToken), s.phases[k]? = some (.answered (.ok t)) →
      Origin (start c clock) es k t) := by
  refine ⟨stored_of_run run, ?_, ?_, ?_, ?_⟩
  · intro e next step
    exact step.fails
  · intro k e
    exact refused_iff run
  · intro later next run' full
    exact stored_stays run' full
  · intro k t done
    exact origin_of_run run done

/-- A forced fetch is under way while a token is installed and handed out; the fetch fails, and a
second one, of a caller who found the installed token expired, brings another. -/
theorem answers_follow_history_around_install :
    let t : AccessToken := .ofParts "installed" (some 600000)
    let u : AccessToken := .ofParts "exchanged" none
    let refusal : AuthError := .ofMessage true "busy"
    let es : List Event :=
      [.arrive .fresh, .enter 0, .install t, .arrive .current, .settle (.error refusal),
        .adjust (.set 300000), .arrive .current, .enter 2, .look, .settle (.ok u)]
    let s₀ := start (.empty ⟨300, 0⟩) ⟨0⟩
    ∃ s, s₀.run? es = some s ∧ s.cache.stored = some u ∧ writes es = [t, u] ∧
      (0, .error refusal) ∈ returns s₀ es ∧ Origin s₀ es 1 t ∧ Origin s₀ es 2 u := by
  intro t u refusal es s₀
  obtain ⟨s, run, phases⟩ : ∃ s, s₀.run? es = some s ∧
      s.phases = [.answered (.error refusal), .answered (.ok t), .answered (.ok u)] :=
    ⟨_, rfl, rfl⟩
  obtain ⟨content, -, errors, -, tokens⟩ := answers_follow_history run
  refine ⟨s, run, content, rfl, (errors 0 refusal).mp ?_, tokens 1 t ?_, tokens 2 u ?_⟩
  · rw [phases]
    rfl
  · rw [phases]
    rfl
  · rw [phases]
    rfl

end Timeline

end WorkloadIdentity
