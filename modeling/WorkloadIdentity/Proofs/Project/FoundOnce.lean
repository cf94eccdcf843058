/-
  WorkloadIdentity.Proofs.Project.FoundOnce ──── **THE ID OF A PROJECT, FOUND ONCE.**

  At the desk there are two ways to be settled: there is no number, so that nobody can be told an
  id, or the id is known.  Once the desk is settled, calls for the id are answered on the spot, and
  tokens and servers do not notice them.  Until then one call at a time looks the id up, with one
  request at most, and a failure is told to that call alone.

  Main results:
    * `Desk.Step.orderly`  — what every move keeps: who holds the cell, and who has been told what
    * `Desk.Orderly.attempts` — what an attempt comes to, by the token and the answer that it meets
    * `Desk.Step.ends`, `Desk.Step.failed` — how attempts end, and where errors come from
    * `Desk.lookups_of_run` — no call sends two requests, and each asks for the project
    * `Desk.Settled.run`   — what happens at a settled desk happens as if no call for the id came
    * `Credentials.projectId_found_once` — all of it, for every run
-/
import WorkloadIdentity.Proofs.Project.Answer
import WorkloadIdentity.Proofs.Project.Desk

namespace WorkloadIdentity

/-! ## §1. Attempts under way. -/

/-- The call has begun its attempt, and the attempt goes on. -/
def Inquiry.Busy : Inquiry → Prop
  | .signing _ | .asking _ => True
  | .waiting | .answered _ => False

/-- The attempt of one of some calls goes on. -/
def BusyAt (calls : List Inquiry) (i : Nat) : Prop := ∃ q, calls[i]? = some q ∧ q.Busy

/-- Who holds the cell is who is busy, and nobody else is. -/
def Holds (holder : Option Nat) (calls : List Inquiry) : Prop :=
  ∀ i, BusyAt calls i ↔ holder = some i

section Holding

variable {calls : List Inquiry} {holder : Option Nat} {old q : Inquiry} {i : Nat}

theorem busyAt_set {j : Nat} (was : calls[i]? = some old) :
    BusyAt (calls.set i q) j ↔ (j = i ∧ q.Busy) ∨ (j ≠ i ∧ BusyAt calls j) := by
  unfold BusyAt
  simp only [Timeline.lookup_set was]
  constructor
  · rintro ⟨p, ⟨same, rfl⟩ | ⟨other, found⟩, busy⟩
    · exact .inl ⟨same, busy⟩
    · exact .inr ⟨other, p, found, busy⟩
  · rintro (⟨same, busy⟩ | ⟨other, p, found, busy⟩)
    · exact ⟨q, .inl ⟨same, rfl⟩, busy⟩
    · exact ⟨p, .inr ⟨other, found⟩, busy⟩

theorem busyAt_iff (was : calls[i]? = some old) : BusyAt calls i ↔ old.Busy := by
  unfold BusyAt
  simp [was]

/-- Whoever comes is not busy yet. -/
theorem Holds.append (holds : Holds holder calls) (idle : ¬ q.Busy) :
    Holds holder (calls ++ [q]) := by
  intro j
  rw [← holds j]
  unfold BusyAt
  constructor
  · rintro ⟨p, found, busy⟩
    rcases Timeline.lookup_append.mp found with was | ⟨-, rfl⟩
    · exact ⟨p, was, busy⟩
    · exact absurd busy idle
  · rintro ⟨p, found, busy⟩
    exact ⟨p, Timeline.lookup_append.mpr (.inl found), busy⟩

/-- Whoever goes on is as busy as before. -/
theorem Holds.goOn (holds : Holds holder calls) (was : calls[i]? = some old)
    (same : q.Busy ↔ old.Busy) : Holds holder (calls.set i q) := by
  intro j
  rw [busyAt_set was, ← holds j]
  by_cases at_i : j = i
  · subst at_i
    simp [same, busyAt_iff was]
  · simp [at_i]

/-- Whoever takes the free cell is busy. -/
theorem Holds.take (holds : Holds none calls) (was : calls[i]? = some old) (busy : q.Busy) :
    Holds (some i) (calls.set i q) := by
  intro j
  rw [busyAt_set was, holds j]
  simp [busy, eq_comm]

/-- Whoever gives the cell back is not busy any more. -/
theorem Holds.release (holds : Holds (some i) calls) (was : calls[i]? = some old)
    (idle : ¬ q.Busy) : Holds none (calls.set i q) := by
  intro j
  rw [busyAt_set was, holds j]
  simp [idle, eq_comm]

end Holding

namespace Desk

/-- The attempt of a call is under way. -/
abbrev Busy (s : Desk) (i : Nat) : Prop := BusyAt s.inquiries i

variable {c : Credentials} {number : String} {s next : Desk} {m : Move}

/-! ## §2. What every move keeps. -/

/-- **The order at a desk** whose project has a number. -/
structure Orderly (s : Desk) : Prop where
  /-- Who holds the cell is who is busy. -/
  holds : Holds s.holder s.inquiries
  /-- Once the id is known, nobody looks it up. -/
  free : s.known ≠ none → s.holder = none
  /-- Whoever has been told something has been told the id. -/
  told : ∀ (i : Nat) (result : Option String), s.inquiries[i]? = some (.answered (.ok result)) →
    ∃ id, result = some id ∧ s.known = some id

theorem orderly_start (cache : TokenCache) (clock : Clock) : (start cache clock).Orderly where
  holds i := by simp [BusyAt, start]
  free _ := rfl
  told i result h := by simp [start] at h

theorem Step.orderly (numbered : c.projectNumber = some number) (h : Step c s m next)
    (orderly : s.Orderly) : next.Orderly := by
  obtain ⟨holds, free, told⟩ := orderly
  cases h with
  | token step => exact ⟨holds, free, told⟩
  | numberless numberless => rw [numbered] at numberless; cases numberless
  | told _ known =>
    refine ⟨holds.append id, free, fun j result said => ?_⟩
    rcases Timeline.lookup_append.mp said with was | ⟨-, new⟩
    · exact told j result was
    · cases new
      exact ⟨_, rfl, known⟩
  | queue _ unknown =>
    refine ⟨holds.append id, free, fun j result said => ?_⟩
    rcases Timeline.lookup_append.mp said with was | ⟨-, new⟩
    · exact told j result was
    · cases new
  | served waits known =>
    refine ⟨holds.goOn waits Iff.rfl, free, fun j result said => ?_⟩
    rcases (Timeline.lookup_set waits).mp said with ⟨-, new⟩ | ⟨-, was⟩
    · cases new
      exact ⟨_, rfl, known⟩
    · exact told j result was
  | begun waits unknown vacant _ =>
    rw [vacant] at holds
    refine ⟨holds.take waits trivial, fun known => absurd unknown known, fun j result said => ?_⟩
    rcases (Timeline.lookup_set waits).mp said with ⟨-, new⟩ | ⟨-, was⟩
    · cases new
    · exact told j result was
  | signed held signs _ _ =>
    refine ⟨holds.goOn signs Iff.rfl, free, fun j result said => ?_⟩
    rcases (Timeline.lookup_set signs).mp said with ⟨-, new⟩ | ⟨-, was⟩
    · cases new
    · exact told j result was
  | unsigned held stood _ _ | lost _ held stood _ =>
    rw [held] at holds
    refine ⟨holds.release stood id, fun _ => rfl, fun j result said => ?_⟩
    rcases (Timeline.lookup_set stood).mp said with ⟨-, new⟩ | ⟨-, was⟩
    · cases new
    · exact told j result was
  | found _ held asks _ =>
    rw [held] at holds
    refine ⟨holds.release asks id, fun _ => rfl, fun j result said => ?_⟩
    rcases (Timeline.lookup_set asks).mp said with ⟨-, new⟩ | ⟨-, was⟩
    · cases new
      exact ⟨_, rfl, rfl⟩
    · -- whoever knew it before would have kept the cell free
      obtain ⟨_, -, known⟩ := told j result was
      rw [free (by rw [known]; exact Option.some_ne_none _)] at held
      cases held

/-- An answer is never taken back. -/
theorem Step.answered {i : Nat} {result : Except AuthError (Option String)} (h : Step c s m next)
    (done : s.inquiries[i]? = some (.answered result)) :
    next.inquiries[i]? = some (.answered result) := by
  cases h with
  | token => exact done
  | numberless | told | queue => exact Timeline.lookup_append.mpr (.inl done)
  | @served j _ stood _ | @begun j _ stood _ _ _ | @signed j _ _ _ _ stood _ _
  | @unsigned j _ _ _ _ stood _ _ | @found j _ _ _ _ _ _ stood _ | @lost j _ _ _ _ _ _ stood _ =>
    -- who goes on had no answer, so it is somebody else
    have other : i ≠ j := fun same => by rw [same, stood] at done; cases done
    exact (Timeline.lookup_set stood).mpr (.inr ⟨other, done⟩)

theorem Orderly.run {ms : List Move} {last : Desk} (numbered : c.projectNumber = some number)
    (orderly : s.Orderly) (run : s.run? c ms = some last) : last.Orderly := by
  induction ms generalizing s with
  | nil =>
    cases run
    exact orderly
  | cons m rest ih =>
    obtain ⟨mid, step, run⟩ := run?_cons.mp run
    exact ih (step.orderly numbered orderly) run

/-! ## §3. Attempts that fail. -/

/-- Why the attempt of a call fails: there is no token, or it makes no headers, or the request is
not answered with an id. -/
inductive Fault (c : Credentials) (s : Desk) (i : Nat) (e : AuthError) : Move → Prop where
  /-- There is no token. -/
  | token {k : Nat} (signs : s.inquiries[i]? = some (.signing k))
      (refused : s.line.phases[k]? = some (.answered (.error e))) : Fault c s i e .sign
  /-- The token makes no headers. -/
  | headers {k : Nat} {t : AccessToken} (signs : s.inquiries[i]? = some (.signing k))
      (came : s.line.phases[k]? = some (.answered (.ok t)))
      (unmade : bearerHeaders t.token c.quotaProject = .error e) : Fault c s i e .sign
  /-- The request is not answered with an id. -/
  | answer {number : String} {h : Headers} {w : World} (numbered : c.projectNumber = some number)
      (asks : s.inquiries[i]? = some (.asking h))
      (ran : ((Project.lookup c.projectsUrl number h).run (w.readAt s.line.clock)).1 = .error e) :
      Fault c s i e (.settle w)

/-- A call takes the cell and begins an attempt. -/
def Tries (c : Credentials) (s : Desk) (i : Nat) : Prop :=
  ∃ after, Step c s (.enter i) after ∧ after.Busy i

/-- **A failure** is told to its own call and to no other, nothing is kept of it, and whoever waits
or comes next can try again. -/
structure Failed (c : Credentials) (s : Desk) (m : Move) (i : Nat) (e : AuthError) (next : Desk) :
    Prop where
  /-- Why. -/
  fault : Fault c s i e m
  /-- Only this call is answered. -/
  own : next.inquiries = s.inquiries.set i (.answered (.error e))
  /-- No id is kept. -/
  unknown : next.known = none
  /-- Tokens do not notice. -/
  line : next.line = s.line
  /-- Whoever waits can try. -/
  waiting : ∀ j, next.inquiries[j]? = some .waiting → Tries c next j
  /-- Whoever comes can try. -/
  coming : ∃ queued, Step c next .inquire queued ∧ Tries c queued next.inquiries.length

/-- Whoever waits at an empty and free cell can try. -/
theorem tries_of_waiting {i : Nat} (unknown : s.known = none) (free : s.holder = none)
    (waits : s.inquiries[i]? = some .waiting) : Tries c s i := by
  obtain ⟨line, -, step⟩ := s.line.step_arrive .current
  exact ⟨_, .begun waits unknown free step, (busyAt_set waits).mpr (.inl ⟨rfl, trivial⟩)⟩

theorem failed_of_fault {i : Nat} {e : AuthError} (numbered : c.projectNumber = some number)
    (unknown : s.known = none) (fault : Fault c s i e m) : Failed c s m i e (s.fail i e) where
  fault := fault
  own := rfl
  unknown := unknown
  line := rfl
  waiting _ waits := tries_of_waiting (s := s.fail i e) unknown rfl waits
  coming := by
    refine ⟨_, .queue numbered (s := s.fail i e) unknown, ?_⟩
    exact tries_of_waiting (s := (s.fail i e).add .waiting) unknown rfl
      (Timeline.lookup_append.mpr (.inr ⟨rfl, rfl⟩))

/-- The id is not known while somebody holds the cell. -/
theorem Orderly.unknown {i : Nat} (orderly : s.Orderly) (held : s.holder = some i) :
    s.known = none := by
  by_contra known
  rw [orderly.free known] at held
  cases held

theorem fault_of_sign {i k : Nat} {outcome : Outcome} {e : AuthError}
    (signs : s.inquiries[i]? = some (.signing k))
    (done : s.line.phases[k]? = some (.answered outcome))
    (unmade : outcome.bind c.sign = .error e) : Fault c s i e .sign := by
  cases outcome with
  | error refusal =>
    cases unmade
    exact .token signs done
  | ok t => exact .headers signs done unmade

/-- By a move the attempt of a call fails. -/
def Fails (c : Credentials) (s : Desk) (m : Move) (i : Nat) (e : AuthError) : Prop :=
  ∃ next, s.step? c m = some next ∧ Failed c s m i e next

/-- **What the attempt of a call comes to**, by what it meets. -/
structure Attempts (c : Credentials) (number : String) (s : Desk) (i : Nat) : Prop where
  /-- If there is no token, it fails as the token did. -/
  tokenless : ∀ k e, s.inquiries[i]? = some (.signing k) →
    s.line.phases[k]? = some (.answered (.error e)) → Fails c s .sign i e
  /-- If the token or who pays cannot be sent, it fails, and would again. -/
  unsignable : ∀ k t, s.inquiries[i]? = some (.signing k) →
    s.line.phases[k]? = some (.answered (.ok t)) → ¬ Signable t.token c.quotaProject →
    ∃ e, Fails c s .sign i e ∧ e.transient = false
  /-- If they can, it goes on to ask with them. -/
  signed : ∀ k t, s.inquiries[i]? = some (.signing k) →
    s.line.phases[k]? = some (.answered (.ok t)) → Signable t.token c.quotaProject →
    s.step? c .sign = some { s with
      inquiries := s.inquiries.set i (.asking ⟨signature t.token c.quotaProject⟩) }
  /-- If nobody hears the request or the connection drops, if the response has no 2xx status, or if
  its body is cut off or names no id, it fails. -/
  untold : ∀ h w, s.inquiries[i]? = some (.asking h) →
    (¬ ∃ id, w.TellsId (c.projectsUrl ++ number) id) → ∃ e, Fails c s (.settle w) i e
  /-- Otherwise it finds the id that the body names. -/
  told : ∀ h w id, s.inquiries[i]? = some (.asking h) → w.TellsId (c.projectsUrl ++ number) id →
    s.step? c (.settle w) = some (s.find i id)

/-- A world tells the same whatever the time. -/
theorem tellsId_readAt {w : World} {address id : String} (clock : Clock) :
    (w.readAt clock).TellsId address id ↔ w.TellsId address id :=
  ⟨fun tells => ⟨tells.addressed, tells.listening, tells.reply⟩,
    fun tells => ⟨tells.addressed, tells.listening, tells.reply⟩⟩

theorem Orderly.attempts (numbered : c.projectNumber = some number) (orderly : s.Orderly)
    (i : Nat) : Attempts c number s i := by
  have held {q : Inquiry} (stands : s.inquiries[i]? = some q) (busy : q.Busy) :
      s.holder = some i := (orderly.holds i).mp ⟨q, stands, busy⟩
  have fails {m : Move} {e : AuthError} (mine : s.holder = some i) (fault : Fault c s i e m)
      (step : Step c s m (s.fail i e)) : Fails c s m i e :=
    ⟨_, step?_eq_some_iff.mpr step, failed_of_fault numbered (orderly.unknown mine) fault⟩
  constructor
  case tokenless =>
    intro k e signs refused
    have mine := held signs trivial
    exact fails mine (.token signs refused) (.unsigned mine signs refused rfl)
  case unsignable =>
    intro k t signs came illegal
    have mine := held signs trivial
    have unmade := bearerHeaders_of_illegal illegal
    exact ⟨_, fails mine (.headers signs came unmade) (.unsigned mine signs came unmade), rfl⟩
  case signed =>
    intro k t signs came legal
    have made := bearerHeaders_of_legal legal
    exact step?_eq_some_iff.mpr (.signed (held signs trivial) signs came made)
  case untold =>
    intro h w asks silent
    have mine := held asks trivial
    cases ran : ((Project.lookup c.projectsUrl number h).run (w.readAt s.line.clock)).1 with
    | error e => exact ⟨e, fails mine (.answer numbered asks ran) (.lost numbered mine asks ran)⟩
    | ok id => exact absurd ⟨id, (tellsId_readAt _).mp (Project.lookup_iff.mp ran)⟩ silent
  case told =>
    intro h w id asks tells
    have ran := (Project.lookup_iff (h := h)).mpr ((tellsId_readAt s.line.clock).mpr tells)
    exact step?_eq_some_iff.mpr (.found numbered (held asks trivial) asks ran)

/-- **Every attempt goes on, or succeeds, or fails.** -/
theorem Step.ends {i : Nat} (numbered : c.projectNumber = some number) (orderly : s.Orderly)
    (h : Step c s m next) (busy : s.Busy i) :
    next.Busy i ∨ (∃ id, next = s.find i id) ∨ ∃ e, Failed c s m i e next := by
  have held : s.holder = some i := (orderly.holds i).mp busy
  have after := (h.orderly numbered orderly).holds i
  cases h with
  | token | numberless | told | queue | served | signed => exact .inl (after.mpr held)
  | begun _ _ free => rw [held] at free; cases free
  | unsigned held' signs done unmade =>
    rw [held] at held'
    cases held'
    exact .inr (.inr ⟨_, failed_of_fault numbered (orderly.unknown held)
      (fault_of_sign signs done unmade)⟩)
  | found _ held' =>
    rw [held] at held'
    cases held'
    exact .inr (.inl ⟨_, rfl⟩)
  | lost numbered held' asks ran =>
    rw [held] at held'
    cases held'
    exact .inr (.inr ⟨_, failed_of_fault numbered (orderly.unknown held)
      (.answer numbered asks ran)⟩)

/-- **Whoever is told of a failure is told of its own.** -/
theorem Step.failed {i : Nat} {e : AuthError} (numbered : c.projectNumber = some number)
    (orderly : s.Orderly) (h : Step c s m next)
    (said : next.inquiries[i]? = some (.answered (.error e))) :
    s.inquiries[i]? = some (.answered (.error e)) ∨ Failed c s m i e next := by
  cases h with
  | token => exact .inl said
  | numberless | told | queue =>
    rcases Timeline.lookup_append.mp said with was | ⟨-, new⟩
    · exact .inl was
    · cases new
  | served stood | begun stood | signed _ stood | found _ _ stood =>
    rcases (Timeline.lookup_set stood).mp said with ⟨-, new⟩ | ⟨-, was⟩
    · cases new
    · exact .inl was
  | unsigned held signs done unmade =>
    rcases (Timeline.lookup_set signs).mp said with ⟨rfl, new⟩ | ⟨-, was⟩
    · cases new
      exact .inr (failed_of_fault numbered (orderly.unknown held)
        (fault_of_sign signs done unmade))
    · exact .inl was
  | lost numbered held asks ran =>
    rcases (Timeline.lookup_set asks).mp said with ⟨rfl, new⟩ | ⟨-, was⟩
    · cases new
      exact .inr (failed_of_fault numbered (orderly.unknown held) (.answer numbered asks ran))
    · exact .inl was

/-! ## §4. The requests for the id. -/

/-- The requests that arrive by a move for the id, and whose they are. -/
def Move.lookups (c : Credentials) (s : Desk) : Move → List (Nat × Arrival)
  | .settle w =>
    match s.lookup? c with
    | none => []
    | some (i, act) =>
      ((w.readAt s.line.clock).arrivals (act.run (w.readAt s.line.clock)).2).map fun a => (i, a)
  | _ => []

/-- **The requests for the id** along a run, in order, and whose they are. -/
def lookups (c : Credentials) : Desk → List Move → List (Nat × Arrival)
  | _, [] => []
  | s, m :: rest =>
    match s.step? c m with
    | none => []
    | some next => m.lookups c s ++ next.lookups c rest

theorem lookups_cons {rest : List Move} (step : Step c s m next) :
    s.lookups c (m :: rest) = m.lookups c s ++ next.lookups c rest := by
  simp only [lookups, step?_eq_some_iff.mpr step]

/-- A request for the project that a number names. -/
def Asks (c : Credentials) (number : String) (a : Arrival) : Prop :=
  ∃ u h, Url.parse (c.projectsUrl ++ number) = .ok u ∧ a = ⟨.projectId, ⟨"GET", u, h, .none⟩⟩

/-- **One request at most**, and then the call has its answer. -/
theorem Step.lookups (h : Step c s m next) (numbered : c.projectNumber = some number) :
    m.lookups c s = [] ∨ ∃ i a, m.lookups c s = [(i, a)] ∧ Asks c number a ∧
      (∀ result, s.inquiries[i]? ≠ some (.answered result)) ∧
      ∃ result, next.inquiries[i]? = some (.answered result) := by
  cases m with
  | token | inquire | enter | sign => exact .inl rfl
  | settle w =>
    have ended : ∃ i h, s.lookup? c = some (i, Project.lookup c.projectsUrl number h) ∧
        s.inquiries[i]? = some (.asking h) ∧
        ∃ result, next.inquiries[i]? = some (.answered result) := by
      cases h with
      | found numbered' held asks | lost numbered' held asks =>
        rw [numbered] at numbered'
        cases numbered'
        exact ⟨_, _, lookup?_eq_some_iff.mpr ⟨_, _, numbered, held, asks, rfl⟩, asks, _,
          (Timeline.lookup_set asks).mpr (.inl ⟨rfl, rfl⟩)⟩
    obtain ⟨i, headers, under, asks, done⟩ := ended
    obtain ⟨new, received, shape⟩ :=
      Project.lookup_received c.projectsUrl number headers (w.readAt s.line.clock)
    have sent : (Move.settle w).lookups c s = new.map fun a => (i, a) := by
      simp only [Move.lookups, under, World.arrivals_eq received.arrived]
    rw [sent]
    rcases shape with rfl | ⟨u, parsed, rfl⟩
    · exact .inl rfl
    · refine .inr ⟨i, _, rfl, ⟨u, headers, parsed, rfl⟩, fun result done' => ?_, done⟩
      rw [asks] at done'
      cases done'

/-- **No call sends two requests**, and each of them asks for the project. -/
theorem lookups_of_run {ms : List Move} {last : Desk} (numbered : c.projectNumber = some number)
    (run : s.run? c ms = some last) :
    ((s.lookups c ms).map (·.1)).Nodup ∧ ∀ p ∈ s.lookups c ms, Asks c number p.2 ∧
      ∀ result, s.inquiries[p.1]? ≠ some (.answered result) := by
  -- whoever has sent a request has an answer and keeps it, so its later moves send none
  induction ms generalizing s with
  | nil => exact ⟨List.nodup_nil, fun p hp => by cases hp⟩
  | cons m rest ih =>
    obtain ⟨mid, step, run⟩ := run?_cons.mp run
    obtain ⟨distinct, later⟩ := ih run
    have before : ∀ p ∈ mid.lookups c rest, Asks c number p.2 ∧
        ∀ result, s.inquiries[p.1]? ≠ some (.answered result) := fun p hp =>
      ⟨(later p hp).1, fun result done => (later p hp).2 result (step.answered done)⟩
    rw [lookups_cons step]
    rcases step.lookups numbered with none | ⟨i, a, one, asks, open', result, done⟩
    · rw [none, List.nil_append]
      exact ⟨distinct, before⟩
    · rw [one]
      refine ⟨List.nodup_cons.mpr ⟨fun again => ?_, distinct⟩, fun p hp => ?_⟩
      · obtain ⟨p, hp, rfl⟩ := List.mem_map.mp again
        exact (later p hp).2 result done
      · rcases List.mem_cons.mp hp with rfl | hp
        · exact ⟨asks, open'⟩
        · exact before p hp

/-! ## §5. Desks that are settled. -/

/-- What happens at the tokens along a run. -/
def tokens : List Move → List Credentials.Happening :=
  List.filterMap fun
    | .token h => some h
    | _ => none

/-- **Nobody notices the calls for the id**: what happens at the tokens happens without them, and
nothing is sent for them. -/
structure Unnoticed (c : Credentials) (s : Desk) (ms : List Move) (last : Desk) : Prop where
  /-- The tokens. -/
  tokens : c.live? s.line (tokens ms) = some last.line
  /-- The requests for the id. -/
  lookups : s.lookups c ms = []

theorem Unnoticed.trans {rest : List Move} {last : Desk} (now : Unnoticed c s [m] next)
    (step : Step c s m next) (later : Unnoticed c next rest last) :
    Unnoticed c s (m :: rest) last where
  tokens := by
    have both := Credentials.live?_append now.tokens later.tokens
    have split : Desk.tokens (m :: rest) = Desk.tokens [m] ++ Desk.tokens rest :=
      @List.filterMap_append _ _ [m] rest _
    rw [split]
    exact both
  lookups := by
    have sent := now.lookups
    rw [lookups_cons step, List.append_eq_nil_iff] at sent
    rw [lookups_cons step, sent.1, later.lookups]
    rfl

/-- **Everybody is told the same**: whoever comes now, and whoever still waits, since nobody waits
for an id that there is not. -/
structure Settled (c : Credentials) (s : Desk) (result : Option String) : Prop where
  /-- Nobody looks the id up. -/
  free : s.holder = none
  /-- Whoever comes is told this. -/
  arrival : s.arrival c = .answered (.ok result)
  /-- Whoever waits will be. -/
  waiting : ∀ i : Nat, s.inquiries[i]? = some .waiting → result = s.known ∧ result ≠ none

theorem settled_numberless (numberless : c.projectNumber = none) (cache : TokenCache)
    (clock : Clock) : Settled c (start cache clock) none where
  free := rfl
  arrival := by simp only [arrival, numberless]
  waiting i waits := by simp [start] at waits

theorem Orderly.settled {id : String} (numbered : c.projectNumber = some number)
    (orderly : s.Orderly) (known : s.known = some id) : Settled c s (some id) where
  free := orderly.free (by rw [known]; exact Option.some_ne_none _)
  arrival := by simp only [arrival, numbered, known]
  waiting _ _ := ⟨known.symm, Option.some_ne_none _⟩

/-- Whoever waits is told on entering. -/
theorem Settled.enter {result : Option String} {i : Nat} (settled : Settled c s result)
    (waits : s.inquiries[i]? = some .waiting) :
    ∃ told, Step c s (.enter i) told ∧ told.inquiries[i]? = some (.answered (.ok result)) := by
  obtain ⟨same, some⟩ := settled.waiting i waits
  obtain ⟨id, rfl⟩ := Option.ne_none_iff_exists'.mp some
  exact ⟨_, .served waits same.symm, (Timeline.lookup_set waits).mpr (.inl ⟨rfl, rfl⟩)⟩

/-- A move that is not at the tokens, leaves them alone and sends nothing, is not noticed. -/
theorem unnoticed_of_line (h : Step c s m next) (unsent : m.lookups c s = [])
    (elsewhere : tokens [m] = []) (line : next.line = s.line) : Unnoticed c s [m] next where
  tokens := by
    rw [elsewhere, line]
    rfl
  lookups := by
    rw [lookups_cons h, unsent]
    rfl

/-- **One move at a settled desk**: it stays settled, and whoever is given an answer is told the
same as everybody. -/
theorem Settled.step {result : Option String} (settled : Settled c s result) (h : Step c s m next) :
    Settled c next result ∧ Unnoticed c s [m] next ∧
    ∀ (i : Nat) (q : Inquiry), next.inquiries[i]? = some q →
      s.inquiries[i]? = some q ∨ q = .answered (.ok result) := by
  have whole := h
  obtain ⟨free, arrival, waiting⟩ := settled
  cases m with
  | token t =>
    cases h with
    | token step =>
      refine ⟨⟨free, arrival, waiting⟩, ⟨?_, ?_⟩, fun i q found => .inl found⟩
      · exact Option.bind_eq_some_iff.mpr ⟨_, Credentials.happen?_eq_some_iff.mpr step, rfl⟩
      · rw [lookups_cons whole]
        rfl
  | inquire =>
    obtain rfl : s.add (s.arrival c) = next := Option.some_inj.mp (step_inquire.mpr h)
    have unnoticed := unnoticed_of_line whole rfl rfl rfl
    rw [arrival] at unnoticed ⊢
    refine ⟨⟨free, arrival, fun i waits => ?_⟩, unnoticed, fun i q found => ?_⟩
    · rcases Timeline.lookup_append.mp waits with was | ⟨-, new⟩
      · exact waiting i was
      · cases new
    · rcases Timeline.lookup_append.mp found with was | ⟨-, new⟩
      · exact .inl was
      · exact .inr new.symm
  | enter i =>
    cases h with
    | served waits known =>
      obtain ⟨rfl, -⟩ := waiting i waits
      refine ⟨⟨free, arrival, fun j waits' => ?_⟩, unnoticed_of_line whole rfl rfl rfl,
        fun j q found => ?_⟩
      · rcases (Timeline.lookup_set waits).mp waits' with ⟨-, new⟩ | ⟨-, was⟩
        · cases new
        · exact waiting j was
      · rcases (Timeline.lookup_set waits).mp found with ⟨-, new⟩ | ⟨-, was⟩
        · exact .inr (new.symm.trans (by rw [known]))
        · exact .inl was
    | begun waits unknown =>
      obtain ⟨same, some⟩ := waiting i waits
      exact absurd (same.trans unknown) some
  | sign =>
    cases h with
    | signed held | unsigned held => rw [free] at held; cases held
  | settle w =>
    cases h with
    | found _ held | lost _ held => rw [free] at held; cases held

/-- **What happens at a settled desk happens as if no call for the id came**, and every answer that
is given is the same. -/
theorem Settled.run {result : Option String} {ms : List Move} {last : Desk}
    (settled : Settled c s result) (run : s.run? c ms = some last) :
    Settled c last result ∧ Unnoticed c s ms last ∧
    ∀ (i : Nat) (q : Inquiry), last.inquiries[i]? = some q →
      s.inquiries[i]? = some q ∨ q = .answered (.ok result) := by
  induction ms generalizing s with
  | nil =>
    cases run
    exact ⟨settled, ⟨rfl, rfl⟩, fun i q found => .inl found⟩
  | cons m rest ih =>
    obtain ⟨mid, step, run⟩ := run?_cons.mp run
    obtain ⟨stays, now, given⟩ := settled.step step
    obtain ⟨settled', later, given'⟩ := ih stays run
    refine ⟨settled', now.trans step later, fun i q found => ?_⟩
    rcases given' i q found with was | told
    · exact given i q was
    · exact .inr told

/-- **From now on every call is told the same**, at once, and is not noticed. -/
structure Tells (c : Credentials) (s : Desk) (result : Option String) : Prop where
  /-- Whoever comes now is told. -/
  coming : Step c s .inquire (s.add (.answered (.ok result)))
  /-- Whoever still waits is told on entering. -/
  waiting : ∀ i, s.inquiries[i]? = some .waiting →
    ∃ told, Step c s (.enter i) told ∧ told.inquiries[i]? = some (.answered (.ok result))
  /-- Whatever happens later, nobody notices the calls for the id. -/
  unnoticed : ∀ later last, s.run? c later = some last → Unnoticed c s later last
  /-- Whoever comes later has been told, and so has whoever has been given an answer since. -/
  answers : ∀ later last, s.run? c later = some last → ∀ (i : Nat) (q : Inquiry),
    last.inquiries[i]? = some q → s.inquiries[i]? = some q ∨ q = .answered (.ok result)

theorem Settled.tells {result : Option String} (settled : Settled c s result) :
    Tells c s result where
  coming := by
    rw [← settled.arrival]
    exact step_inquire.mp rfl
  waiting _ := settled.enter
  unnoticed _ _ run := (settled.run run).2.1
  answers _ _ run := (settled.run run).2.2

end Desk

/-! ## §6. Every run. -/

/-- **The id of a project is found once.**  Callers for it and callers for tokens come, overtake one
another and are held up in any way.  Without a number every call for the id is told at once that
there is none.  With a number one call at a time looks it up, and no call sends two requests.  An
attempt fails without a token, with one that cannot be sent, and without an answer that names an id,
and finds the id otherwise; a failure is told to its own call only, and nothing is kept of it, so
the next can try.  Once a call has been told an id, all that are told one are told the same, from
then on at once, without a token and without a request. -/
theorem Credentials.projectId_found_once (c : Credentials) {cache : TokenCache} {clock : Clock}
    {ms : List Desk.Move} {s : Desk} (run : (Desk.start cache clock).run? c ms = some s) :
    (c.projectNumber = none →
      Desk.Unnoticed c (.start cache clock) ms s ∧
      (∀ (i : Nat) (q : Inquiry), s.inquiries[i]? = some q → q = .answered (.ok none)) ∧
      Desk.Tells c s none) ∧
    ∀ number, c.projectNumber = some number →
      (∀ i j, s.Busy i → s.Busy j → i = j) ∧
      (((Desk.start cache clock).lookups c ms).map (·.1)).Nodup ∧
      (∀ p ∈ (Desk.start cache clock).lookups c ms, Desk.Asks c number p.2) ∧
      (∀ i, Desk.Attempts c number s i) ∧
      (∀ m next i, Desk.Step c s m next → s.Busy i →
        next.Busy i ∨ (∃ id, next = s.find i id) ∨ ∃ e, Desk.Failed c s m i e next) ∧
      (∀ m next i e, Desk.Step c s m next → next.inquiries[i]? = some (.answered (.error e)) →
        s.inquiries[i]? = some (.answered (.error e)) ∨ Desk.Failed c s m i e next) ∧
      ∀ (i : Nat) (result : Option String), s.inquiries[i]? = some (.answered (.ok result)) →
        ∃ id, result = some id ∧ Desk.Tells c s (some id) ∧
          ∀ (j : Nat) (other : Option String),
            s.inquiries[j]? = some (.answered (.ok other)) → other = some id := by
  refine ⟨fun numberless => ?_, fun number numbered => ?_⟩
  · obtain ⟨settled, unnoticed, given⟩ :=
      (Desk.settled_numberless numberless cache clock).run run
    refine ⟨unnoticed, fun i q found => ?_, settled.tells⟩
    rcases given i q found with nobody | told
    · cases nobody
    · exact told
  · have orderly := (Desk.orderly_start cache clock).run numbered run
    obtain ⟨distinct, asks⟩ := Desk.lookups_of_run numbered run
    refine ⟨fun i j busy busy' => ?_, distinct, fun p hp => (asks p hp).1,
      orderly.attempts numbered, fun m next i step busy => step.ends numbered orderly busy,
      fun m next i e step said => step.failed numbered orderly said, fun i result said => ?_⟩
    · have same := ((orderly.holds i).mp busy).symm.trans ((orderly.holds j).mp busy')
      exact Option.some_inj.mp same
    · obtain ⟨id, rfl, known⟩ := orderly.told i result said
      refine ⟨id, rfl, (orderly.settled numbered known).tells, fun j other said' => ?_⟩
      obtain ⟨id', rfl, known'⟩ := orderly.told j other said'
      exact known'.symm.trans known

/-! ## §7. A connection that drops first. -/

namespace Numbered

/-- Credentials of a project with a number. -/
def credentials : Credentials where
  source := .application
  sts := ⟨"http://sts/token", .anonymous⟩
  impersonationUrl := none
  audience := "//iam/projects/7/"
  subjectTokenType := "type"
  scopes := [platformScope]
  quotaProject := none
  policy := ⟨⟨300, 0⟩, false⟩
  projectNumber := projectNumber? "//iam/projects/7/"
  projectsUrl := "http://crm/"

/-- A world that gives one reply. -/
def world (reply : Reply) : World where
  network := ⟨true, [reply], []⟩
  files := ⟨[], []⟩
  clock := .start
  subjects := []
  log := []

/-- Two calls come, and the connection of the first one drops. -/
def moves : List Desk.Move :=
  [.token (.install ⟨"t", none, none⟩), .inquire, .inquire, .enter 0, .sign, .settle (world .drop),
    .enter 1, .sign,
    .settle (world (.respond 200 .empty (Utf8.encode "\x7b\"projectId\":\"p\"\x7d") true))]

/-- Nobody has come, and there is no token. -/
def start : Desk := .start (TokenCache.empty ⟨300, 0⟩) .start

end Numbered

open Numbered in
/-- The first call is told of the failure and the second one finds the id: two requests, one each.
Whoever comes after that is told the id, whatever becomes of the tokens. -/
theorem Credentials.projectId_found_once_after_drop :
    credentials.projectNumber = some "7" ∧
    ∃ s, start.run? credentials moves = some s ∧
      (∃ e, s.inquiries = [.answered (.error e), .answered (.ok (some "p"))]) ∧
      (start.lookups credentials moves).map (·.1) = [0, 1] ∧
      ((start.lookups credentials moves).map (·.1)).Nodup ∧
      Desk.Tells credentials s (some "p") := by
  obtain ⟨s, run, e, calls⟩ : ∃ s, start.run? credentials moves = some s ∧
      ∃ e, s.inquiries = [.answered (.error e), .answered (.ok (some "p"))] := ⟨_, rfl, _, rfl⟩
  have numbered : credentials.projectNumber = some "7" := by decide
  obtain ⟨-, distinct, -, -, -, -, told⟩ := (projectId_found_once credentials run).2 "7" numbered
  obtain ⟨id, same, tells, -⟩ := told 1 (some "p") (by rw [calls]; rfl)
  cases same
  exact ⟨numbered, s, run, ⟨e, calls⟩, rfl, distinct, tells⟩

end WorkloadIdentity
