/-
  WorkloadIdentity.Proofs.Project.Desk ──── **MANY CALLERS ASK FOR ONE PROJECT.**

  Whoever asks for the id of the project comes to a desk with one cell.  A caller who finds the id
  in the cell has its answer.  Otherwise it waits for the cell, and whoever holds the cell looks the
  id up: it asks for a token as every caller of the credentials does, makes headers of it and sends
  the request.  Only a success is kept; after a failure the cell is empty, and free.

  Callers for tokens come and go between any two moves at the desk, and the clock is moved, so a run
  is one list of moves and every interleaving is one such list.

  Main results:
    * `Desk.step?_eq_some_iff` — everything that one move can do, guards included: later proofs
      split on `Desk.Step` and never open the moves themselves
    * `Credentials.projectId_alone` — a caller who is alone at the desk gets what a session gives it
-/
import WorkloadIdentity.Proofs.Credentials.Happenings
import WorkloadIdentity.Proofs.Credentials.Sendings

namespace WorkloadIdentity

/-! ## §1. The request for the id. -/

/-- **What arrives by a lookup**: one request for what the number names, if any. -/
theorem Project.lookup_received (baseUrl number : String) (h : Headers) (w : World) :
    ∃ new, World.Received new w ((lookup baseUrl number h).run w).2 ∧
      (new = [] ∨ ∃ u, Url.parse (baseUrl ++ number) = .ok u ∧
        new = [⟨.projectId, ⟨"GET", u, h, .none⟩⟩]) := by
  refine ⟨_, lookup_sends baseUrl number h w, ?_⟩
  unfold Act.written
  cases parsed : Url.parse (baseUrl ++ number) with
  | error e => exact .inl rfl
  | ok u =>
    cases heard : w.network.hears ⟨"GET", u, h, .none⟩ <;> simp [Except.toOption, heard]

/-! ## §2. States and moves. -/

/-- Where a call for the id stands. -/
inductive Inquiry where
  /-- It waits for the cell. -/
  | waiting
  /-- It holds the cell and waits for a token, as a caller of the credentials. -/
  | signing (caller : Nat)
  /-- It holds the cell and waits for the answer to its request. -/
  | asking (headers : Headers)
  /-- It has its answer. -/
  | answered (result : Except AuthError (Option String))

/-- Credentials with callers for tokens and callers for the id, numbered as they came. -/
structure Desk where
  /-- The cache, the callers for tokens and the clock. -/
  line : Timeline
  /-- Where each call for the id stands. -/
  inquiries : List Inquiry
  /-- The id, once it is known. -/
  known : Option String
  /-- Who holds the cell. -/
  holder : Option Nat

namespace Desk

/-- Nobody has come yet, and the id is not known. -/
def start (cache : TokenCache) (clock : Clock) : Desk := ⟨.start cache clock, [], none, none⟩

/-- One more call for the id. -/
def add (s : Desk) (q : Inquiry) : Desk := { s with inquiries := s.inquiries ++ [q] }

/-- A call is answered from the cell. -/
def answer (s : Desk) (i : Nat) (id : String) : Desk :=
  { s with inquiries := s.inquiries.set i (.answered (.ok (some id))) }

/-- A call begins its attempt: it holds the cell and is the last who came for a token. -/
def begin (s : Desk) (i : Nat) (line : Timeline) : Desk :=
  { s with
    line := line
    inquiries := s.inquiries.set i (.signing s.line.phases.length)
    holder := some i }

/-- The attempt of a call fails. -/
def fail (s : Desk) (i : Nat) (e : AuthError) : Desk :=
  { s with inquiries := s.inquiries.set i (.answered (.error e)), holder := none }

/-- The attempt of a call succeeds. -/
def find (s : Desk) (i : Nat) (id : String) : Desk :=
  { s with
    inquiries := s.inquiries.set i (.answered (.ok (some id)))
    known := some id
    holder := none }

/-- What can happen. -/
inductive Move where
  /-- Something happens at the tokens. -/
  | token (h : Credentials.Happening)
  /-- Somebody comes for the id. -/
  | inquire
  /-- A waiting call finds the id, or takes the cell. -/
  | enter (i : Nat)
  /-- The token of the attempt under way has come, and headers are made of it. -/
  | sign
  /-- The request of the attempt under way is carried out, in a world at the reading of the
  clock. -/
  | settle (w : World)

section Moves

variable (c : Credentials)

/-- Where a call stands that has just come. -/
def arrival (s : Desk) : Inquiry :=
  match c.projectNumber, s.known with
  | none, _ => .answered (.ok none)
  | some _, some id => .answered (.ok (some id))
  | some _, none => .waiting

/-- A waiting call looks into the cell, and takes it if it is empty and free. -/
def enter? (s : Desk) (i : Nat) : Option Desk :=
  match s.inquiries[i]?, s.known, s.holder with
  | some .waiting, some id, _ => some (s.answer i id)
  | some .waiting, none, none => (c.happen? s.line (.ask .current)).map (s.begin i)
  | _, _, _ => none

/-- Headers are made of the token that has come. -/
def sign? (s : Desk) : Option Desk :=
  match s.holder with
  | none => none
  | some i =>
    match s.inquiries[i]? with
    | some (.signing k) =>
      match s.line.phases[k]? with
      | some (.answered outcome) =>
        match outcome.bind c.sign with
        | .ok h => some { s with inquiries := s.inquiries.set i (.asking h) }
        | .error e => some (s.fail i e)
      | _ => none
    | _ => none

/-- The lookup that is under way, and whose it is. -/
def lookup? (s : Desk) : Option (Nat × Act String) :=
  match c.projectNumber, s.holder with
  | some number, some i =>
    match s.inquiries[i]? with
    | some (.asking h) => some (i, Project.lookup c.projectsUrl number h)
    | _ => none
  | _, _ => none

/-- The lookup that is under way is carried out. -/
def settle? (s : Desk) (w : World) : Option Desk :=
  match s.lookup? c with
  | none => none
  | some (i, act) =>
    match (act.run (w.readAt s.line.clock)).1 with
    | .ok id => some (s.find i id)
    | .error e => some (s.fail i e)

/-- **One move**, unless it is not possible in this state. -/
def step? (s : Desk) : Move → Option Desk
  | .token h => (c.happen? s.line h).map fun line => { s with line := line }
  | .inquire => some (s.add (s.arrival c))
  | .enter i => s.enter? c i
  | .sign => s.sign? c
  | .settle w => s.settle? c w

/-- The state after some moves, if all of them were possible. -/
def run? (s : Desk) : List Move → Option Desk
  | [] => some s
  | m :: rest => (s.step? c m).bind fun next => next.run? rest

/-! ## §3. What one move does. -/

/-- Everything that one move can do. -/
inductive Step (s : Desk) : Move → Desk → Prop where
  /-- Something happens at the tokens. -/
  | token {h : Credentials.Happening} {line : Timeline}
      (step : Timeline.Step s.line (h.event c s.line.clock) line) :
      Step s (.token h) { s with line := line }
  /-- A caller comes, and there is no number. -/
  | numberless (numberless : c.projectNumber = none) :
      Step s .inquire (s.add (.answered (.ok none)))
  /-- A caller comes, and the id is known. -/
  | told {number id : String} (numbered : c.projectNumber = some number)
      (known : s.known = some id) : Step s .inquire (s.add (.answered (.ok (some id))))
  /-- A caller comes and has to wait. -/
  | queue {number : String} (numbered : c.projectNumber = some number) (unknown : s.known = none) :
      Step s .inquire (s.add .waiting)
  /-- A caller who waited finds the id. -/
  | served {i : Nat} {id : String} (waits : s.inquiries[i]? = some .waiting)
      (known : s.known = some id) : Step s (.enter i) (s.answer i id)
  /-- A caller who waited takes the cell and asks for a token. -/
  | begun {i : Nat} {line : Timeline} (waits : s.inquiries[i]? = some .waiting)
      (unknown : s.known = none) (free : s.holder = none)
      (step : Timeline.Step s.line (.arrive .current) line) : Step s (.enter i) (s.begin i line)
  /-- The token has come, and there are headers. -/
  | signed {i k : Nat} {outcome : Outcome} {h : Headers} (held : s.holder = some i)
      (signs : s.inquiries[i]? = some (.signing k))
      (done : s.line.phases[k]? = some (.answered outcome)) (made : outcome.bind c.sign = .ok h) :
      Step s .sign { s with inquiries := s.inquiries.set i (.asking h) }
  /-- There is no token, or it makes no headers. -/
  | unsigned {i k : Nat} {outcome : Outcome} {e : AuthError} (held : s.holder = some i)
      (signs : s.inquiries[i]? = some (.signing k))
      (done : s.line.phases[k]? = some (.answered outcome))
      (unmade : outcome.bind c.sign = .error e) : Step s .sign (s.fail i e)
  /-- The id is found. -/
  | found {i : Nat} {number id : String} {h : Headers} {w : World}
      (numbered : c.projectNumber = some number) (held : s.holder = some i)
      (asks : s.inquiries[i]? = some (.asking h))
      (ran : ((Project.lookup c.projectsUrl number h).run (w.readAt s.line.clock)).1 = .ok id) :
      Step s (.settle w) (s.find i id)
  /-- It is not found. -/
  | lost {i : Nat} {number : String} {h : Headers} {w : World} {e : AuthError}
      (numbered : c.projectNumber = some number) (held : s.holder = some i)
      (asks : s.inquiries[i]? = some (.asking h))
      (ran : ((Project.lookup c.projectsUrl number h).run (w.readAt s.line.clock)).1 = .error e) :
      Step s (.settle w) (s.fail i e)

end Moves

variable {c : Credentials} {s next : Desk}

theorem step_inquire : s.step? c .inquire = some next ↔ Step c s .inquire next := by
  -- who comes is never turned away, so it is the arrival that has to be told apart
  have only : s.step? c .inquire = some next ↔ s.add (s.arrival c) = next := Option.some_inj
  rw [only]
  constructor
  · rintro rfl
    unfold arrival
    split
    case h_1 numberless => exact .numberless numberless
    case h_2 numbered known => exact .told numbered known
    case h_3 numbered unknown => exact .queue numbered unknown
  · intro h
    cases h with
    | numberless numberless => simp only [arrival, numberless]
    | told numbered known => simp only [arrival, numbered, known]
    | queue numbered unknown => simp only [arrival, numbered, unknown]

theorem step_enter {i : Nat} : s.step? c (.enter i) = some next ↔ Step c s (.enter i) next := by
  constructor
  · intro h
    simp only [step?, enter?] at h
    split at h
    case h_1 waits known =>
      cases h
      exact .served waits known
    case h_2 waits unknown free =>
      obtain ⟨line, asked, rfl⟩ := Option.map_eq_some_iff.mp h
      exact .begun waits unknown free (Credentials.happen?_eq_some_iff.mp asked)
    case h_3 => cases h
  · intro h
    cases h with
    | served waits known => simp only [step?, enter?, waits, known]
    | begun waits unknown free step =>
      have asked : c.happen? s.line (.ask .current) = some _ :=
        Credentials.happen?_eq_some_iff.mpr step
      simp only [step?, enter?, waits, unknown, free, asked, Option.map_some]

theorem step_sign : s.step? c .sign = some next ↔ Step c s .sign next := by
  constructor
  · intro h
    simp only [step?, sign?] at h
    split at h
    case h_1 => cases h
    case h_2 i held =>
      split at h
      case h_2 => cases h
      case h_1 k signs =>
        split at h
        case h_2 => cases h
        case h_1 outcome done =>
          split at h
          case h_1 headers made =>
            cases h
            exact .signed held signs done made
          case h_2 e unmade =>
            cases h
            exact .unsigned held signs done unmade
  · intro h
    cases h with
    | signed held signs done made => simp only [step?, sign?, held, signs, done, made]
    | unsigned held signs done unmade => simp only [step?, sign?, held, signs, done, unmade]

/-- Whose lookup is under way, and which. -/
theorem lookup?_eq_some_iff {i : Nat} {act : Act String} :
    s.lookup? c = some (i, act) ↔ ∃ number h, c.projectNumber = some number ∧ s.holder = some i ∧
      s.inquiries[i]? = some (.asking h) ∧ act = Project.lookup c.projectsUrl number h := by
  constructor
  · intro under
    unfold lookup? at under
    split at under
    case h_2 => cases under
    case h_1 number j numbered held =>
      split at under
      case h_2 => cases under
      case h_1 h asks =>
        cases under
        exact ⟨number, h, numbered, held, asks, rfl⟩
  · rintro ⟨number, h, numbered, held, asks, rfl⟩
    simp only [lookup?, numbered, held, asks]

theorem step_settle {w : World} :
    s.step? c (.settle w) = some next ↔ Step c s (.settle w) next := by
  constructor
  · intro h
    simp only [step?, settle?] at h
    split at h
    case h_1 => cases h
    case h_2 i act under =>
      obtain ⟨number, headers, numbered, held, asks, rfl⟩ := lookup?_eq_some_iff.mp under
      split at h
      case h_1 id ran =>
        cases h
        exact .found numbered held asks ran
      case h_2 e ran =>
        cases h
        exact .lost numbered held asks ran
  · intro h
    cases h with
    | found numbered held asks ran | lost numbered held asks ran =>
      have under := lookup?_eq_some_iff.mpr ⟨_, _, numbered, held, asks, rfl⟩
      simp only [step?, settle?, under, ran]

/-- **Everything that one move can do.** -/
theorem step?_eq_some_iff {m : Move} : s.step? c m = some next ↔ Step c s m next := by
  cases m with
  | token h =>
    constructor
    · intro happened
      obtain ⟨line, step, rfl⟩ := Option.map_eq_some_iff.mp happened
      exact .token (Credentials.happen?_eq_some_iff.mp step)
    · intro step
      cases step with
      | token step =>
        exact Option.map_eq_some_iff.mpr ⟨_, Credentials.happen?_eq_some_iff.mpr step, rfl⟩
  | inquire => exact step_inquire
  | enter i => exact step_enter
  | sign => exact step_sign
  | settle w => exact step_settle

/-! ## §4. Runs. -/

theorem run?_cons {m : Move} {rest : List Move} {last : Desk} :
    s.run? c (m :: rest) = some last ↔ ∃ mid, Step c s m mid ∧ mid.run? c rest = some last := by
  show (s.step? c m).bind _ = some last ↔ _
  simp only [Option.bind_eq_some_iff, step?_eq_some_iff]

theorem run?_singleton {m : Move} : s.run? c [m] = some next ↔ Step c s m next := by
  rw [run?_cons]
  constructor
  · rintro ⟨mid, step, ends⟩
    cases ends
    exact step
  · intro step
    exact ⟨next, step, rfl⟩

theorem run?_append {ms later : List Move} {mid last : Desk} (first : s.run? c ms = some mid)
    (second : mid.run? c later = some last) : s.run? c (ms ++ later) = some last := by
  induction ms generalizing s with
  | nil =>
    cases first
    exact second
  | cons m ms ih =>
    obtain ⟨after, step, rest⟩ := run?_cons.mp first
    exact run?_cons.mpr ⟨after, step, ih rest⟩

/-- What happens at the tokens happens at the desk. -/
theorem run?_tokens {hs : List Credentials.Happening} {line : Timeline}
    (run : c.live? s.line hs = some line) :
    s.run? c (hs.map .token) = some { s with line := line } := by
  induction hs generalizing s with
  | nil =>
    cases run
    rfl
  | cons h rest ih =>
    obtain ⟨mid, happened, run⟩ := Credentials.live?_cons run
    refine run?_cons.mpr ⟨{ s with line := mid }, ?_, ih (s := { s with line := mid }) run⟩
    exact .token (Credentials.happen?_eq_some_iff.mp happened)

end Desk

/-! ## §5. Alone at the desk. -/

/-- What a session knows, with nobody there. -/
def Session.desk (s : Session) : Desk := ⟨.start s.cache s.world.clock, [], s.projectId, none⟩

namespace Credentials

variable {c : Credentials} {s mid : Session} {number : String}

theorem run_projectId_numberless (numberless : c.projectNumber = none) :
    c.projectId.run s = (.ok none, s) := by
  unfold projectId
  rw [numberless]
  rfl

theorem run_projectId_known {id : String} (numbered : c.projectNumber = some number)
    (known : s.projectId = some id) : c.projectId.run s = (.ok (some id), s) := by
  have looked : (getThe Session : Use Session).run s = (.ok s, s) := rfl
  unfold projectId
  rw [numbered]
  dsimp only
  rw [run_bind_ok looked, known]
  rfl

/-- Whoever does not know the id asks for it. -/
theorem run_projectId_unknown (numbered : c.projectNumber = some number)
    (unknown : s.projectId = none) :
    c.projectId.run s = (do
      let h ← c.headers
      let found ← Use.outside (Project.lookup c.projectsUrl number h)
      modifyThe Session fun s => { s with projectId := some found }
      return some found : Use (Option String)).run s := by
  have looked : (getThe Session : Use Session).run s = (.ok s, s) := rfl
  unfold projectId
  rw [numbered]
  dsimp only
  rw [run_bind_ok looked, unknown]

theorem run_projectId_unsigned {e : AuthError} (numbered : c.projectNumber = some number)
    (unknown : s.projectId = none) (unready : c.headers.run s = (.error e, mid)) :
    c.projectId.run s = (.error e, mid) := by
  rw [run_projectId_unknown numbered unknown, run_bind_error unready]

/-- With headers the answer is that of the lookup, and only a success is kept. -/
theorem run_projectId_signed {h : Headers} (numbered : c.projectNumber = some number)
    (unknown : s.projectId = none) (ready : c.headers.run s = (.ok h, mid)) :
    c.projectId.run s =
      match (Project.lookup c.projectsUrl number h).run mid.world with
      | (.ok id, w) => (.ok (some id), { mid with world := w, projectId := some id })
      | (.error e, w) => (.error e, { mid with world := w }) := by
  rw [run_projectId_unknown numbered unknown, run_bind_ok ready]
  rcases ran : (Project.lookup c.projectsUrl number h).run mid.world with ⟨result, w⟩
  have outside := run_outside (Project.lookup c.projectsUrl number h) mid
  rw [ran] at outside
  cases result with
  | error e => exact run_bind_error outside
  | ok id =>
    rw [run_bind_ok outside]
    rfl

/-- The headers of a session are made of what becomes of its token. -/
theorem run_headers (c : Credentials) (s : Session) :
    c.headers.run s
      = (((c.obtain .current).run s).1.bind c.sign, ((c.obtain .current).run s).2) := by
  rcases token : (c.obtain .current).run s with ⟨outcome, next⟩
  cases outcome with
  | error e => exact run_headers_error token
  | ok t => exact run_headers_ok token rfl

/-- Asking for a token leaves the clock and the id as they are. -/
theorem obtain_leaves (c : Credentials) (s : Session) :
    ((c.obtain .current).run s).2.world.clock = s.world.clock ∧
    ((c.obtain .current).run s).2.projectId = s.projectId := by
  obtain ⟨_, received, -⟩ := c.obtain_received .current s
  refine ⟨received.clock, ?_⟩
  rw [run_obtain]

/-- **A caller who is alone at the cache** gets what a session gives it. -/
theorem live_alone (c : Credentials) (s : Session) :
    ∃ first line hs, Timeline.Step (.start s.cache s.world.clock) (.arrive .current) first ∧
      c.live? first hs = some line ∧
      line.phases[0]? = some (.answered ((c.obtain .current).run s).1) ∧
      line.cache = ((c.obtain .current).run s).2.cache ∧ line.clock = s.world.clock := by
  cases found : s.cache.usable? s.world.clock.now with
  | some t =>
    rw [c.run_obtain_hit found]
    let first : Timeline := ⟨⟨s.cache, [.answered (.ok t)], none⟩, s.world.clock⟩
    exact ⟨first, first, [], .hit found, rfl, rfl, rfl, rfl⟩
  | none =>
    -- it waits, takes the lock and fetches
    have stale : Demand.current = .current → s.cache.usable? s.world.clock.now = none :=
      fun _ => found
    rw [c.run_obtain_fetch stale]
    let first : Timeline := ⟨⟨s.cache, [.waiting .current], none⟩, s.world.clock⟩
    have takes : c.happen? first (.enter 0)
        = some ⟨⟨s.cache, [.fetching], some 0⟩, s.world.clock⟩ :=
      happen?_eq_some_iff.mpr (.fetch rfl rfl stale)
    let outcome := (c.fetch.run (s.world.note TokenCache.fetchRecord)).1
    let line : Timeline := ⟨⟨s.cache.settle outcome, [.answered outcome], none⟩, s.world.clock⟩
    refine ⟨first, line, [.enter 0, .fetch (s.world.note TokenCache.fetchRecord)], .queue stale, ?_,
      rfl, rfl, rfl⟩
    unfold live?
    rw [takes]
    rfl

/-- **A caller who is alone at the desk** gets what a session gives it, and leaves the id, the
cached token and the clock as the session does. -/
theorem projectId_alone (c : Credentials) (s : Session) :
    ∃ ms d, s.desk.run? c ms = some d ∧
      d.inquiries = [.answered (c.projectId.run s).1] ∧
      d.known = (c.projectId.run s).2.projectId ∧
      d.line.cache = (c.projectId.run s).2.cache ∧
      d.line.clock = (c.projectId.run s).2.world.clock := by
  cases numbered : c.projectNumber with
  | none =>
    rw [run_projectId_numberless numbered]
    exact ⟨[.inquire], _, Desk.run?_cons.mpr ⟨_, .numberless numbered, rfl⟩, rfl, rfl, rfl, rfl⟩
  | some number =>
    cases known : s.projectId with
    | some id =>
      rw [run_projectId_known numbered known]
      exact ⟨[.inquire], _, Desk.run?_cons.mpr ⟨_, .told numbered known, rfl⟩, rfl, rfl, rfl, rfl⟩
    | none =>
      obtain ⟨first, line, hs, came, run, token, cache, clock⟩ := c.live_alone s
      obtain ⟨still, unknown⟩ := c.obtain_leaves s
      have headers := c.run_headers s
      rcases obtained : (c.obtain .current).run s with ⟨outcome, mid⟩
      rw [obtained] at token cache still unknown headers
      let queued : Desk := s.desk.add .waiting
      let ready : Desk := { queued.begin 0 first with line := line }
      have there : s.desk.run? c (.inquire :: .enter 0 :: hs.map .token) = some ready := by
        have arrives : Desk.Step c s.desk .inquire queued := .queue (s := s.desk) numbered known
        have begins : Desk.Step c queued (.enter 0) (queued.begin 0 first) :=
          .begun (s := queued) rfl known rfl came
        exact Desk.run?_cons.mpr ⟨_, arrives, Desk.run?_cons.mpr ⟨_, begins,
          Desk.run?_tokens (s := queued.begin 0 first) run⟩⟩
      cases made : outcome.bind c.sign with
      | error e =>
        rw [made] at headers
        rw [run_projectId_unsigned numbered known headers]
        have fails : ready.run? c [.sign] = some (ready.fail 0 e) :=
          Desk.run?_singleton.mpr (.unsigned (s := ready) rfl rfl token made)
        exact ⟨_, _, Desk.run?_append there fails, rfl, unknown.symm, cache,
          clock.trans still.symm⟩
      | ok h =>
        rw [made] at headers
        rw [run_projectId_signed numbered known headers]
        let asks : Desk := { ready with inquiries := [.asking h] }
        have signed : ready.run? c [.sign] = some asks :=
          Desk.run?_singleton.mpr (.signed (s := ready) rfl rfl token made)
        -- the lookup finds the clock where the token has left it
        have same : mid.world.readAt asks.line.clock = mid.world := by
          show { mid.world with clock := line.clock } = mid.world
          rw [clock, ← still]
        obtain ⟨_, received, -⟩ := Project.lookup_received c.projectsUrl number h mid.world
        rcases ran : (Project.lookup c.projectsUrl number h).run mid.world with ⟨result, w⟩
        rw [ran] at received
        have stands : line.clock = w.clock := (clock.trans still.symm).trans received.clock.symm
        cases result with
        | error e =>
          have lost : asks.run? c [.settle mid.world] = some (asks.fail 0 e) :=
            Desk.run?_singleton.mpr
              (.lost (s := asks) numbered rfl rfl (by rw [same, ran]))
          exact ⟨_, _, Desk.run?_append there (Desk.run?_append signed lost), rfl, unknown.symm,
            cache, stands⟩
        | ok id =>
          have found : asks.run? c [.settle mid.world] = some (asks.find 0 id) :=
            Desk.run?_singleton.mpr
              (.found (s := asks) numbered rfl rfl (by rw [same, ran]))
          exact ⟨_, _, Desk.run?_append there (Desk.run?_append signed found), rfl, rfl,
            cache, stands⟩

end Credentials

end WorkloadIdentity
