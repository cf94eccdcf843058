/-
  WorkloadIdentity.Proofs.Cache.Linearization ──── **CONCURRENT CALLS ARE CALLS IN TURN.**

  A call takes effect in the event that answers it.  Served one after another in the order of
  their answers, each alone with the cache at the reading of the clock at that event, callers get
  the same results, take the same answers from the provider and leave the same cache.

  The argument is one induction over the run with two invariants that grow together:
    * `Standing` — what is true of callers without an answer; while somebody fetches for a current
      token the cache stays unusable, because nobody else writes and the clock goes forward
    * `Ordered`, `Matches` — the turns so far are in real-time order, and their ledger is the
      state of the machine

  Main result:
    * `Timeline.calls_linearize` — every complete run of calls has such an order
-/
import WorkloadIdentity.Proofs.Cache.History

namespace WorkloadIdentity

/-! ## §1. One caller after another. -/

/-- A place whose clock stands still and whose fetches are answered by a script. -/
structure Scripted where
  /-- The reading of the clock. -/
  now : Int
  /-- How many entries of the script are used up. -/
  used : Nat

/-- Where tokens come from according to a script. -/
def Scripted.host (script : Nat → Outcome) : TokenHost Scripted where
  now w := w.now
  note _ w := w
  fetch w := (script w.used, { w with used := w.used + 1 })

/-- A call that is made while no other is. -/
structure Turn where
  /-- Whose call it is. -/
  caller : Nat
  /-- What for. -/
  demand : Demand
  /-- The reading of the clock. -/
  now : Int

/-- What there is after some turns. -/
structure Ledger where
  /-- The cache. -/
  cache : TokenCache
  /-- How many entries of the script are used up. -/
  used : Nat
  /-- What each caller got. -/
  answers : List (Nat × Outcome)
  /-- Who took the entries of the script, in order. -/
  fetchers : List Nat
  /-- What was published. -/
  notices : List TokenNotice

/-- Nobody has had a turn. -/
def Ledger.blank (c : TokenCache) : Ledger := ⟨c, 0, [], [], []⟩

/-- **One turn**: its caller is alone with the cache. -/
def Ledger.serve (script : Nat → Outcome) (l : Ledger) (turn : Turn) : Ledger :=
  let (outcome, cache, place) :=
    TokenCache.obtain (Scripted.host script) turn.demand l.cache ⟨turn.now, l.used⟩
  { cache := cache
    used := place.used
    answers := l.answers ++ [(turn.caller, outcome)]
    fetchers := if place.used = l.used then l.fetchers else l.fetchers ++ [turn.caller]
    notices := l.notices ++ l.cache.feed.news cache.feed }

/-- **One turn after another.** -/
def inTurn (script : Nat → Outcome) (c : TokenCache) (order : List Turn) : Ledger :=
  order.foldl (Ledger.serve script) (.blank c)

theorem inTurn_snoc (script : Nat → Outcome) (c : TokenCache) (order : List Turn) (turn : Turn) :
    inTurn script c (order ++ [turn]) = (inTurn script c order).serve script turn := by
  simp [inTurn]

/-- Who finds a usable token has it, and nothing else changes. -/
theorem Ledger.serve_hit (script : Nat → Outcome) {l : Ledger} {caller : Nat} {now : Int}
    {t : AccessToken} (found : l.cache.usable? now = some t) :
    l.serve script ⟨caller, .current, now⟩
      = { l with answers := l.answers ++ [(caller, .ok t)] } := by
  have obtained : TokenCache.obtain (Scripted.host script) .current l.cache ⟨now, l.used⟩
      = (.ok t, l.cache, ⟨now, l.used⟩) := by
    unfold TokenCache.obtain
    simp only [Scripted.host, found]
  simp only [Ledger.serve, obtained, Feed.news_self, List.append_nil, if_true]

/-- Who finds none, or does not look, takes the next entry of the script. -/
theorem Ledger.serve_fetch (script : Nat → Outcome) {l : Ledger} (turn : Turn)
    (stale : turn.demand = .current → l.cache.usable? turn.now = none) :
    l.serve script turn
      = { cache := l.cache.settle (script l.used)
          used := l.used + 1
          answers := l.answers ++ [(turn.caller, script l.used)]
          fetchers := l.fetchers ++ [turn.caller]
          notices := l.notices ++ (script l.used).notices } := by
  have obtained : TokenCache.obtain (Scripted.host script) turn.demand l.cache ⟨turn.now, l.used⟩
      = (script l.used, l.cache.settle (script l.used), ⟨turn.now, l.used + 1⟩) := by
    unfold TokenCache.obtain
    cases hd : turn.demand with
    | fresh => rfl
    | current =>
      simp only [Scripted.host, stale hd]
      rfl
  simp only [Ledger.serve, obtained, TokenCache.news_settle]
  simp

/-! ## §2. Who has no answer yet. -/

/-- A token that is usable at one instant was usable before. -/
theorem AccessToken.isUsable_of_le {t : AccessToken} {now later threshold : Int}
    (forward : now ≤ later) (usable : t.isUsable later threshold = true) :
    t.isUsable now threshold = true := by
  unfold AccessToken.isUsable at usable ⊢
  cases he : t.expiry with
  | none => rfl
  | some expiry =>
    simp only [he, decide_eq_true_eq] at usable ⊢
    omega

/-- While nobody writes, time alone makes no token usable. -/
theorem TokenCache.usable?_none_of_le {c : TokenCache} {now later : Int} (forward : now ≤ later)
    (stale : c.usable? now = none) : c.usable? later = none := by
  unfold TokenCache.usable? at *
  cases hc : c.stored with
  | none => rfl
  | some t =>
    rw [hc, Option.filter_eq_none_iff] at stale
    rw [Option.filter_eq_none_iff]
    intro u hu usable
    exact stale u hu (AccessToken.isUsable_of_le forward usable)

namespace Timeline

/-- Callers come and are answered, and the clock never goes back. -/
def CallsOnly (s : Timeline) : Event → Prop
  | .arrive _ | .enter _ | .settle _ => True
  | .adjust a => s.clock.now ≤ (s.clock.adjust a).now
  | _ => False

/-- What is true of callers, of those without an answer above all. -/
structure Standing (es : List Event) (s : Timeline) : Prop where
  /-- Who fetches holds the lock. -/
  locked : s.Locked
  /-- There is one phase for everyone who came. -/
  come : s.phases.length = (demands es).length
  /-- Who waits, waits for what it came for. -/
  waits : ∀ (k : Nat) (d : Demand), s.phases[k]? = some (Phase.waiting d) →
    (demands es)[k]? = some d
  /-- Who fetches came for a fresh token, or there is none that is usable. -/
  holds : ∀ k, s.holder = some k →
    ∃ d, (demands es)[k]? = some d ∧ (d = .current → s.usable? = none)

theorem standing_start (c : TokenCache) (clock : Clock) : Standing [] (start c clock) where
  locked := locked_start c clock
  come := rfl
  waits k d h := by simp [start, Callers.nobody, phases] at h
  holds k h := by simp [start, Callers.nobody, holder] at h

theorem Standing.step {es : List Event} {s next : Timeline} {e : Event} (h : Standing es s)
    (calls : CallsOnly s e) (step : Step s e next) : Standing (es ++ [e]) next := by
  refine ⟨step.locked h.locked, ?_, ?_, ?_⟩
  · -- one more phase exactly if somebody came
    rw [demands_snoc, List.length_append, ← h.come]
    cases step <;> simp [setPhases, setCache, phases, Event.demand?]
  · intro k d waits
    cases step with
    | hit =>
      rcases lookup_append.mp waits with was | ⟨-, impossible⟩
      · exact demands_mono (h.waits k d was)
      · cases impossible
    | @queue d' stale =>
      rcases lookup_append.mp waits with was | ⟨hk, hd⟩
      · exact demands_mono (h.waits k d was)
      · cases hd
        rw [demands_snoc, hk, h.come]
        simp [Event.demand?]
    | served _ old | fetch _ old =>
      rcases (lookup_set old).mp waits with ⟨-, impossible⟩ | ⟨-, was⟩
      · cases impossible
      · exact demands_mono (h.waits k d was)
    | @settle j outcome held =>
      rcases (lookup_set ((h.locked j).mpr held)).mp waits with ⟨-, impossible⟩ | ⟨-, was⟩
      · cases impossible
      · exact demands_mono (h.waits k d was)
    | _ => exact demands_mono (h.waits k d waits)
  · intro k held
    cases step with
    | @fetch _ d free waits stale =>
      cases held
      exact ⟨d, demands_mono (h.waits k d waits), stale⟩
    | settle => cases held
    | adjust a =>
      -- only here the direction of the clock matters
      obtain ⟨d, hd, stale⟩ := h.holds k held
      exact ⟨d, demands_mono hd, fun hc => TokenCache.usable?_none_of_le calls (stale hc)⟩
    | install | subscribe | receive => cases calls
    | _ =>
      obtain ⟨d, hd, stale⟩ := h.holds k held
      exact ⟨d, demands_mono hd, stale⟩

/-! ## §3. The order of the answers is an order in real time. -/

/-- The turns of those who have their answer, in the order in which they got it. -/
structure Ordered (s₀ : Timeline) (es : List Event) (s : Timeline) (order : List Turn) : Prop where
  /-- Nobody has two turns. -/
  once : (order.map (·.caller)).Nodup
  /-- Whoever has an answer has a turn, and nobody else does. -/
  served : ∀ k, k ∈ order.map (·.caller) ↔ s.Answered k
  /-- A turn is for what its caller came for. -/
  demanded : ∀ turn ∈ order, (demands es)[turn.caller]? = some turn.demand
  /-- It is at a reading that the clock showed during the call. -/
  during : ∀ turn ∈ order, ReadDuring s₀ es turn.caller turn.now
  /-- No reading is still to come. -/
  past : ∀ turn ∈ order, turn.now ≤ s.clock.now
  /-- From turn to turn the clock does not go back. -/
  forward : order.Pairwise fun earlier later => earlier.now ≤ later.now
  /-- Nobody had an answer before somebody came who has an earlier turn. -/
  realTime : order.Pairwise fun earlier later =>
    ¬ ReturnedBefore s₀ es later.caller earlier.caller

theorem ReturnedBefore.answered {s₀ s : Timeline} {es : List Event} {caller other : Nat}
    (h : ReturnedBefore s₀ es caller other) (locked : s₀.Locked) (run : s₀.run? es = some s) :
    s.Answered caller := by
  obtain ⟨done, later, mid, rfl, hmid, hans, -⟩ := h
  rw [run?_append, hmid] at run
  exact hans.stays (locked.run hmid) run

/-- An event that gives no answer, or one, adds no turn, or that of the caller it answers. -/
theorem Ordered.step {s₀ s next : Timeline} {es : List Event} {e : Event} {order : List Turn}
    {given : List (Nat × Outcome)} (h : Ordered s₀ es s order) (new : Option Turn)
    (locked : s₀.Locked) (run : s₀.run? es = some s) (step : Step s e next)
    (forward : s.clock.now ≤ next.clock.now) (answers : NewAnswers s next given)
    (same : given.map (·.1) = new.toList.map (·.caller))
    (fresh : ∀ turn ∈ new.toList, ¬ s.Answered turn.caller ∧
      (demands (es ++ [e]))[turn.caller]? = some turn.demand ∧ turn.now = s.clock.now) :
    Ordered s₀ (es ++ [e]) next (order ++ new.toList) := by
  have run' : s₀.run? (es ++ [e]) = some next := run?_snoc.mpr ⟨s, run, step⟩
  have answered : ∀ k, next.Answered k ↔ s.Answered k ∨ k ∈ new.toList.map (·.caller) := fun k =>
    same ▸ answers.answered_iff k
  have known : ∀ turn ∈ order, s.Answered turn.caller := fun turn hturn =>
    (h.served _).mp (List.mem_map_of_mem hturn)
  -- what the last state shows concerns nobody with an earlier turn: they all had come by then
  have earlier : ∀ turn ∈ order, ∀ caller, ReturnedBefore s₀ (es ++ [e]) caller turn.caller →
      ReturnedBefore s₀ es caller turn.caller := by
    intro turn hturn caller before
    rcases returnedBefore_snoc run' before with old | ⟨-, late⟩
    · exact old
    · have := (known turn hturn).lt
      have := step.length_le
      omega
  have single : new.toList.Pairwise fun (_ _ : Turn) => False := by
    cases new <;> simp
  refine ⟨?_, ?_, ?_, ?_, ?_, ?_, ?_⟩
  · rw [List.map_append, List.nodup_append]
    refine ⟨h.once, ?_, ?_⟩
    · cases new <;> simp
    · rintro k hk j hj rfl
      obtain ⟨turn, hturn, rfl⟩ := List.mem_map.mp hj
      exact (fresh turn hturn).1 ((h.served _).mp hk)
  · intro k
    rw [List.map_append, List.mem_append, h.served, answered]
  · intro turn hturn
    rcases List.mem_append.mp hturn with old | hnew
    · exact demands_mono (h.demanded turn old)
    · exact (fresh turn hnew).2.1
  · intro turn hturn
    rcases List.mem_append.mp hturn with old | hnew
    · exact readDuring_mono (h.during turn old)
    · obtain ⟨unanswered, -, reading⟩ := fresh turn hnew
      have come : turn.caller < next.phases.length :=
        ((answered _).mpr (.inr (List.mem_map_of_mem hnew))).lt
      exact ⟨es, e, [], s, next, rfl, run, step, unanswered, come, reading.symm⟩
  · intro turn hturn
    rcases List.mem_append.mp hturn with old | hnew
    · exact Int.le_trans (h.past turn old) forward
    · rw [(fresh turn hnew).2.2]
      exact forward
  · rw [List.pairwise_append]
    refine ⟨h.forward, single.imp fun impossible => impossible.elim, ?_⟩
    intro turn hturn last hlast
    rw [(fresh last hlast).2.2]
    exact h.past turn hturn
  · rw [List.pairwise_append]
    refine ⟨?_, single.imp fun impossible => impossible.elim, ?_⟩
    · refine h.realTime.imp_of_mem ?_
      intro turn later hturn _ hbefore returned
      exact hbefore (earlier turn hturn _ returned)
    · intro turn hturn last hlast returned
      exact (fresh last hlast).1 ((earlier turn hturn _ returned).answered locked run)

/-! ## §4. The ledger of the turns is the state of the machine. -/

/-- The turns so far, taken one after another, lead where the run has led. -/
structure Matches (script : Nat → Outcome) (c : TokenCache) (s₀ : Timeline) (es : List Event)
    (s : Timeline) (order : List Turn) : Prop where
  /-- The same cache. -/
  cache : (inTurn script c order).cache = s.cache
  /-- Every fetch that has ended took an entry of the script. -/
  used : (inTurn script c order).used = (outcomes es).length
  /-- The same callers took them; the one who is fetching has not had its turn. -/
  fetchers : (inTurn script c order).fetchers ++ s.holder.toList = fetchers s₀ es
  /-- The same notices. -/
  notices : (inTurn script c order).notices = notices s₀ es
  /-- The same answers. -/
  answers : ∀ k outcome,
    s.phases[k]? = some (.answered outcome) ↔ (k, outcome) ∈ (inTurn script c order).answers

/-- An event that gives no answer and does not touch the cache adds no turn. -/
theorem Matches.keep {script : Nat → Outcome} {c : TokenCache} {s₀ s next : Timeline}
    {es : List Event} {e : Event} {order : List Turn} (h : Matches script c s₀ es s order)
    (run : s₀.run? es = some s) (step : Step s e next) (cache : next.cache = s.cache)
    (quiet : e.outcome? = none) (holder : s.holder.toList ++ newHolder s next = next.holder.toList)
    (answers : NewAnswers s next []) : Matches script c s₀ (es ++ [e]) next order where
  cache := by rw [cache]; exact h.cache
  used := by
    rw [outcomes_snoc, quiet, h.used]
    simp
  fetchers := by
    unfold Timeline.fetchers
    rw [observe_snoc run step, ← holder, ← List.append_assoc, h.fetchers]
    rfl
  notices := by
    unfold Timeline.notices
    rw [observe_snoc run step, cache, Feed.news_self, List.append_nil]
    exact h.notices
  answers k outcome := by
    rw [answers k outcome, h.answers]
    simp

/-- An answer from the cache is a turn that finds the same token. -/
theorem Matches.hit {script : Nat → Outcome} {c : TokenCache} {s₀ s next : Timeline}
    {es : List Event} {e : Event} {order : List Turn} {caller : Nat} {t : AccessToken}
    (h : Matches script c s₀ es s order) (run : s₀.run? es = some s) (step : Step s e next)
    (found : s.usable? = some t) (cache : next.cache = s.cache) (quiet : e.outcome? = none)
    (holder : next.holder = s.holder)
    (answers : NewAnswers s next [(caller, .ok t)]) :
    Matches script c s₀ (es ++ [e]) next (order ++ [⟨caller, .current, s.clock.now⟩]) := by
  have served : inTurn script c (order ++ [⟨caller, .current, s.clock.now⟩])
      = { inTurn script c order with
          answers := (inTurn script c order).answers ++ [(caller, .ok t)] } := by
    rw [inTurn_snoc, Ledger.serve_hit script (by rw [h.cache]; exact found)]
  refine ⟨?_, ?_, ?_, ?_, ?_⟩
  · rw [served, cache]
    exact h.cache
  · rw [served, outcomes_snoc, quiet]
    simpa using h.used
  · have same : newHolder s next = [] := by
      unfold newHolder
      rw [holder]
      cases s.holder <;> simp
    unfold Timeline.fetchers
    rw [served, observe_snoc run step, same, List.append_nil, holder]
    exact h.fetchers
  · unfold Timeline.notices
    rw [served, observe_snoc run step, cache, Feed.news_self, List.append_nil]
    exact h.notices
  · intro k outcome
    rw [served, answers k outcome, h.answers]
    simp

/-- The end of a fetch is a turn that takes the next entry of the script: the cache is as it was
when the fetch began, so the turn finds nothing usable either. -/
theorem Matches.settle {script : Nat → Outcome} {c : TokenCache} {s₀ s next : Timeline}
    {es : List Event} {order : List Turn} {caller : Nat} {d : Demand} {outcome : Outcome}
    (h : Matches script c s₀ es s order) (run : s₀.run? es = some s)
    (step : Step s (.settle outcome) next) (held : s.holder = some caller)
    (stale : d = .current → s.usable? = none) (entry : script (outcomes es).length = outcome)
    (cache : next.cache = s.cache.settle outcome) (free : next.holder = none)
    (answers : NewAnswers s next [(caller, outcome)]) :
    Matches script c s₀ (es ++ [.settle outcome]) next
      (order ++ [⟨caller, d, s.clock.now⟩]) := by
  have served := Ledger.serve_fetch script (l := inTurn script c order)
    ⟨caller, d, s.clock.now⟩ (by rw [h.cache]; exact stale)
  rw [h.used, entry, h.cache, ← inTurn_snoc] at served
  refine ⟨?_, ?_, ?_, ?_, ?_⟩
  · rw [served, cache]
  · rw [served, outcomes_snoc]
    simp [Event.outcome?]
  · have nobody : newHolder s next = [] := by
      simp [newHolder, held]
    have before := h.fetchers
    rw [held] at before
    unfold Timeline.fetchers at before ⊢
    rw [served, observe_snoc run step, nobody, ← before, free]
    simp
  · unfold Timeline.notices
    rw [served, observe_snoc run step, h.notices, cache, TokenCache.news_settle]
    rfl
  · intro k other
    rw [served, answers k other, h.answers]
    simp

/-! ## §5. Every complete run. -/

/-- **One event of a run of calls**: the order of the turns so far goes on. -/
theorem turns_step {script : Nat → Outcome} {c : TokenCache} {s₀ s next : Timeline}
    {es : List Event} {e : Event} {order : List Turn} (standing : Standing es s)
    (ordered : Ordered s₀ es s order) (matching : Matches script c s₀ es s order)
    (locked : s₀.Locked) (run : s₀.run? es = some s) (calls : CallsOnly s e)
    (follows : Follows script (es ++ [e])) (step : Step s e next) :
    ∃ longer, Ordered s₀ (es ++ [e]) next longer ∧ Matches script c s₀ (es ++ [e]) next longer := by
  cases step with
  | @hit t found =>
    -- the turn is the event itself, and it looks at the same cache
    have given := newAnswers_append s (.answered (.ok t))
    refine ⟨order ++ [⟨s.phases.length, .current, s.clock.now⟩], ?_,
      matching.hit run (.hit found) found rfl rfl rfl given⟩
    refine ordered.step (some ⟨s.phases.length, .current, s.clock.now⟩) locked run
      (.hit found) (Int.le_refl _) given rfl ?_
    intro turn hturn
    cases List.mem_singleton.mp hturn
    refine ⟨fun done => absurd done.lt (Nat.lt_irrefl _), ?_, rfl⟩
    rw [demands_snoc, standing.come]
    simp [Event.demand?]
  | @queue d stale =>
    have given := newAnswers_append s (.waiting d)
    refine ⟨order ++ (none : Option Turn).toList,
      ordered.step none locked run (.queue stale) (Int.le_refl _) given rfl (by simp), ?_⟩
    rw [Option.toList_none, List.append_nil]
    refine matching.keep run (.queue stale) rfl rfl ?_ given
    show s.holder.toList ++ (if s.holder = none then s.holder.toList else []) = s.holder.toList
    cases s.holder <;> simp
  | @served k t free waits found =>
    have given : NewAnswers s (s.setPhases (s.phases.set k (.answered (.ok t))))
        (answersIn k (.answered (.ok t))) :=
      newAnswers_set waits (by simp) rfl
    refine ⟨order ++ [⟨k, .current, s.clock.now⟩], ?_,
      matching.hit run (.served free waits found) found rfl rfl rfl given⟩
    refine ordered.step (some ⟨k, .current, s.clock.now⟩) locked run
      (.served free waits found) (Int.le_refl _) given rfl ?_
    intro turn hturn
    cases List.mem_singleton.mp hturn
    refine ⟨?_, demands_mono (standing.waits k .current waits), rfl⟩
    rintro ⟨outcome, done⟩
    rw [waits] at done
    cases done
  | @fetch k d free waits stale =>
    have given : NewAnswers s
        ⟨{ s.callers with phases := s.phases.set k .fetching, holder := some k }, s.clock⟩
        (answersIn k .fetching) :=
      newAnswers_set waits (by simp) rfl
    refine ⟨order ++ (none : Option Turn).toList,
      ordered.step none locked run (.fetch free waits stale) (Int.le_refl _) given rfl (by simp),
      ?_⟩
    rw [Option.toList_none, List.append_nil]
    refine matching.keep run (.fetch free waits stale) rfl rfl ?_ given
    simp [newHolder, free]
  | @settle k outcome held =>
    -- the turn is the end of the fetch; what made it begin is still true
    obtain ⟨d, hd, stale⟩ := standing.holds k held
    have fetching := (standing.locked k).mpr held
    have given : NewAnswers s
        ⟨⟨s.cache.settle outcome, s.phases.set k (.answered outcome), none⟩, s.clock⟩
        (answersIn k (.answered outcome)) :=
      newAnswers_set fetching (by simp) rfl
    refine ⟨order ++ [⟨k, d, s.clock.now⟩], ?_,
      matching.settle run (.settle outcome held) held stale follows.last rfl rfl given⟩
    refine ordered.step (some ⟨k, d, s.clock.now⟩) locked run (.settle outcome held)
      (Int.le_refl _) given rfl ?_
    intro turn hturn
    cases List.mem_singleton.mp hturn
    refine ⟨?_, demands_mono hd, rfl⟩
    rintro ⟨other, done⟩
    rw [fetching] at done
    cases done
  | adjust a =>
    have given : NewAnswers s { s with clock := s.clock.adjust a } [] := newAnswers_of_phases rfl
    refine ⟨order ++ (none : Option Turn).toList,
      ordered.step none locked run (.adjust a) calls given rfl (by simp), ?_⟩
    rw [Option.toList_none, List.append_nil]
    refine matching.keep run (.adjust a) rfl rfl ?_ given
    show s.holder.toList ++ (if s.holder = none then s.holder.toList else []) = s.holder.toList
    cases s.holder <;> simp
  | install | look | subscribe | receive => cases calls

/-- The invariants of a run of calls, together. -/
theorem turns_of_run {script : Nat → Outcome} {c : TokenCache} {clock : Clock} {es : List Event}
    {s : Timeline} (run : (start c clock).run? es = some s)
    (calls : Along CallsOnly (start c clock) es) (follows : Follows script es) :
    Standing es s ∧ ∃ order, Ordered (start c clock) es s order ∧
      Matches script c (start c clock) es s order := by
  refine run_induction (P := fun es s => Along CallsOnly (start c clock) es → Follows script es →
    Standing es s ∧ ∃ order, Ordered (start c clock) es s order ∧
      Matches script c (start c clock) es s order) ?_ ?_ run calls follows
  · intro _ _
    refine ⟨standing_start c clock, [], ⟨?_, ?_, ?_, ?_, ?_, ?_, ?_⟩, ⟨rfl, rfl, rfl, rfl, ?_⟩⟩
    · exact List.nodup_nil
    · simp [Answered, start, Callers.nobody, phases]
    all_goals simp [start, Callers.nobody, phases, inTurn, Ledger.blank]
  · intro es s e next hrun ih step calls follows
    obtain ⟨earlier, last⟩ := (along_snoc hrun).mp calls
    obtain ⟨standing, order, ordered, matching⟩ := ih earlier follows.init
    exact ⟨standing.step last step,
      turns_step standing ordered matching (locked_start c clock) hrun last follows step⟩

/-- An order of the calls of a run that explains it: `c` is what the cache held in the beginning,
and `script` says what fetches bring. -/
structure Linearization (script : Nat → Outcome) (c : TokenCache) (clock : Clock)
    (es : List Event) (s : Timeline) (order : List Turn) : Prop where
  /-- Every call has one turn. -/
  everyone : (order.map (·.caller)).Perm (List.range (demands es).length)
  /-- A turn is for what its caller came for. -/
  demanded : ∀ turn ∈ order, (demands es)[turn.caller]? = some turn.demand
  /-- It is at a reading that the clock showed during the call. -/
  during : ∀ turn ∈ order, ReadDuring (start c clock) es turn.caller turn.now
  /-- From turn to turn the clock does not go back. -/
  forward : order.Pairwise fun earlier later => earlier.now ≤ later.now
  /-- A call that returned before another came has the earlier turn. -/
  realTime : order.Pairwise fun earlier later =>
    ¬ ReturnedBefore (start c clock) es later.caller earlier.caller
  /-- Every call gets what it gets in its turn. -/
  answers : ∀ k outcome, s.phases[k]? = some (.answered outcome) ↔
    (k, outcome) ∈ (inTurn script c order).answers
  /-- The entries of the script go to the same callers in the same order. -/
  fetchers : fetchers (start c clock) es = (inTurn script c order).fetchers
  /-- As many of them are used up. -/
  used : (outcomes es).length = (inTurn script c order).used
  /-- The cache is the same in the end. -/
  cache : s.cache = (inTurn script c order).cache
  /-- The same notices were published in the same order. -/
  notices : notices (start c clock) es = (inTurn script c order).notices

/-- **Concurrent calls are calls in turn**: every run in which callers come, wait, fetch and are
all answered in the end, while the clock only goes forward, is explained by an order of the calls
in which each is alone with the cache. -/
theorem calls_linearize {script : Nat → Outcome} {c : TokenCache} {clock : Clock}
    {es : List Event} {s : Timeline} (run : (start c clock).run? es = some s)
    (calls : Along CallsOnly (start c clock) es) (follows : Follows script es)
    (complete : ∀ k < s.phases.length, s.Answered k) :
    ∃ order, Linearization script c clock es s order := by
  obtain ⟨standing, order, ordered, matching⟩ := turns_of_run run calls follows
  -- whoever holds the lock has no answer, and here everybody has
  have free : s.holder = none := by
    cases held : s.holder with
    | none => rfl
    | some k =>
      have fetching := (standing.locked k).mpr held
      obtain ⟨outcome, done⟩ := complete k (List.getElem?_eq_some_iff.mp fetching).1
      rw [fetching] at done
      cases done
  have everyone : ∀ k, k ∈ order.map (·.caller) ↔ k ∈ List.range (demands es).length := by
    intro k
    rw [ordered.served, List.mem_range, ← standing.come]
    exact ⟨Answered.lt, complete k⟩
  refine ⟨order, ?_, ordered.demanded, ordered.during, ordered.forward, ordered.realTime,
    matching.answers, ?_, matching.used.symm, matching.cache.symm, matching.notices.symm⟩
  · exact (List.perm_ext_iff_of_nodup ordered.once List.nodup_range).mpr everyone
  · rw [← matching.fetchers, free]
    simp

/-- Two callers wait behind a forced fetch, the clock moves while it is under way, and a second
forced fetch fails. -/
theorem calls_linearize_behind_forced_fetch :
    let t : AccessToken := .ofParts "t" none
    let refusal : AuthError := .ofMessage true "busy"
    let script : Nat → Outcome := fun i => if i = 0 then .ok t else .error refusal
    let c : TokenCache := .empty ⟨300, 0⟩
    let es : List Event :=
      [.arrive .current, .arrive .fresh, .enter 1, .arrive .current, .adjust (.advance ⟨7, 0⟩),
        .settle (.ok t), .enter 2, .arrive .fresh, .enter 0, .enter 3, .settle (.error refusal)]
    ∃ s, (start c ⟨0⟩).run? es = some s ∧ Along CallsOnly (start c ⟨0⟩) es ∧
      Follows script es ∧ (∀ k < s.phases.length, s.Answered k) ∧
      ∃ order, Linearization script c ⟨0⟩ es s order := by
  intro t refusal script c es
  have calls : Along CallsOnly (start c ⟨0⟩) es := by
    refine ⟨trivial, trivial, trivial, trivial, ?_, trivial, trivial, trivial, trivial, trivial,
      trivial, trivial⟩
    show (0 : Int) ≤ 7000
    omega
  have follows : Follows script es := by
    intro i outcome h
    match i with
    | 0 => cases h; rfl
    | 1 => cases h; rfl
  refine ⟨_, rfl, calls, follows, ?complete, calls_linearize rfl calls follows ?complete⟩
  intro k hk
  match k with
  | 0 => exact ⟨_, rfl⟩
  | 1 => exact ⟨_, rfl⟩
  | 2 => exact ⟨_, rfl⟩
  | 3 => exact ⟨_, rfl⟩

end Timeline

end WorkloadIdentity
