/-
  WorkloadIdentity.Time.Clock ──── **A CLOCK THAT IS SET AND ADVANCED BY HAND.**

  **RULE**: `set` replaces the reading, `advance` adds the whole milliseconds of a span and stops
  at the latest instant.
-/
import WorkloadIdentity.Time.Millis

namespace WorkloadIdentity

/-- A clock, by its reading in milliseconds since the epoch. -/
structure Clock where
  /-- The reading. -/
  now : Int
  deriving DecidableEq

/-- A clock that has not been set reads zero. -/
def Clock.start : Clock := ⟨0⟩

/-- Replace the reading. -/
def Clock.set (_ : Clock) (now : Int) : Clock := ⟨now⟩

/-- Let a span pass. -/
def Clock.advance (c : Clock) (s : Span) : Clock := ⟨Millis.add c.now s.toMillis⟩

/-- What can happen to a clock. -/
inductive Clock.Adjustment where
  /-- The reading is replaced. -/
  | set (now : Int)
  /-- Time passes. -/
  | advance (s : Span)

/-- Apply one adjustment. -/
def Clock.adjust (c : Clock) : Clock.Adjustment → Clock
  | .set now => c.set now
  | .advance s => c.advance s

/-- The readings after each adjustment of a list, in order. -/
def Clock.readings (c : Clock) : List Clock.Adjustment → List Int
  | [] => []
  | a :: rest => (c.adjust a).now :: (c.adjust a).readings rest

end WorkloadIdentity
