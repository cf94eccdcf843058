/-
  WorkloadIdentity.Proofs.Credentials.Happenings ──── **CREDENTIALS WITH MANY CALLERS.**

  The events at a cache say what a fetch brings.  At credentials a fetch is theirs, carried out in
  some world, so it brings what that world makes of it.  The world may be another one each time:
  whatever servers, files and the application do between two fetches is covered.  Only the clock is
  the one that all callers read.

  Main results:
    * `Credentials.happen?_eq_some_iff` — what happens at credentials is an event at their cache
    * `Credentials.live?_append`        — what happens one after the other
    * `Credentials.sent_fetch`          — what arrives by a fetch is a beginning of its plan
-/
import WorkloadIdentity.Proofs.Cache.Timeline
import WorkloadIdentity.Proofs.Request.Errands

namespace WorkloadIdentity

/-- The same world with another clock. -/
def World.readAt (w : World) (clock : Clock) : World := { w with clock := clock }

namespace Credentials

/-! ## §1. What can happen. -/

/-- What can happen at credentials. -/
inductive Happening where
  /-- A caller asks for a token. -/
  | ask (d : Demand)
  /-- A waiting caller takes the lock. -/
  | enter (caller : Nat)
  /-- The fetch under way is carried out, in a world at the reading of the clock. -/
  | fetch (w : World)
  /-- A token is put in place. -/
  | install (t : AccessToken)
  /-- The clock is moved. -/
  | adjust (a : Clock.Adjustment)

/-- What it is for the cache. -/
def Happening.event (c : Credentials) (clock : Clock) : Happening → Timeline.Event
  | .ask d => .arrive d
  | .enter caller => .enter caller
  | .fetch w => .settle (c.fetch.run (w.readAt clock)).1
  | .install t => .install t
  | .adjust a => .adjust a

/-- The requests that arrive by it: only a fetch sends any. -/
def Happening.sent (c : Credentials) (clock : Clock) : Happening → List Arrival
  | .fetch w => (w.readAt clock).arrivals (c.fetch.run (w.readAt clock)).2
  | _ => []

/-- **One thing happens**, unless it cannot in this state. -/
def happen? (c : Credentials) (s : Timeline) (h : Happening) : Option Timeline :=
  s.step? (h.event c s.clock)

/-- The state after some things have happened, if all of them could. -/
def live? (c : Credentials) (s : Timeline) : List Happening → Option Timeline
  | [] => some s
  | h :: rest => (c.happen? s h).bind fun next => c.live? next rest

/-! ## §2. Steps and runs. -/

theorem happen?_eq_some_iff {c : Credentials} {s next : Timeline} {h : Happening} :
    c.happen? s h = some next ↔ Timeline.Step s (h.event c s.clock) next :=
  Timeline.step?_eq_some_iff

theorem live?_cons {c : Credentials} {s last : Timeline} {h : Happening} {rest : List Happening}
    (run : c.live? s (h :: rest) = some last) :
    ∃ next, c.happen? s h = some next ∧ c.live? next rest = some last :=
  Option.bind_eq_some_iff.mp run

theorem live?_append {c : Credentials} {s mid last : Timeline} {hs later : List Happening}
    (first : c.live? s hs = some mid) (second : c.live? mid later = some last) :
    c.live? s (hs ++ later) = some last := by
  induction hs generalizing s with
  | nil =>
    cases first
    exact second
  | cons h rest ih =>
    obtain ⟨next, happened, run⟩ := live?_cons first
    exact Option.bind_eq_some_iff.mpr ⟨next, happened, ih run⟩

/-! ## §3. A fetch. -/

/-- What arrives by a fetch is a beginning of the plan, and all of it if there is a token. -/
theorem sent_fetch (c : Credentials) (clock : Clock) (w : World) :
    ((Happening.fetch w).sent c clock).map (·.errand) <+: c.plan ∧
    ∀ t, (c.fetch.run (w.readAt clock)).1 = .ok t →
      ((Happening.fetch w).sent c clock).map (·.errand) = c.plan := by
  obtain ⟨new, received, beginning, whole⟩ := c.fetch_follows (w.readAt clock)
  have sent : (Happening.fetch w).sent c clock = new := World.arrivals_eq received.arrived
  rw [sent]
  exact ⟨beginning, whole⟩

end Credentials

end WorkloadIdentity
