/-
  WorkloadIdentity.Proofs.Json.Format ──── **WHAT IS READ IS OF THE FORMAT.**

  Every floating point number comes out of the rounding step, and so do those that a reader makes:
  it rounds the digits, and then what they are multiplied with or divided by.  All values that are
  read from a text therefore are of the format, and those are the values that a compact text gives
  back.

  Main results:
    * `Magnitude.proper_of_ofDecimal?` — digits and an exponent make a magnitude of the format
    * `Json.proper_of_parse`           — all that is read from a text is of the format
    * `Json.Compact.read?_of_parse`    — what is read and written again is the same to its reader
-/
import WorkloadIdentity.Proofs.Json.Compact
import WorkloadIdentity.Proofs.Json.Fields

namespace WorkloadIdentity

/-! ## §1. Arithmetic. -/

namespace Magnitude

variable {a b x : Magnitude}

theorem proper_zero : zero.Proper := ⟨by decide, by decide, by decide, fun _ => rfl⟩

theorem proper_of_ofNat? {n : Nat} (h : ofNat? n = some x) : x.Proper :=
  proper_of_ofRatio? Nat.one_pos h

theorem proper_of_mul? (h : a.mul? b = some x) : x.Proper :=
  proper_of_ofRatio? (by rw [Nat.shiftLeft_eq]; positivity) h

theorem proper_of_div? (h : a.div? b = some x) : x.Proper := by
  unfold div? at h
  split_ifs at h with none
  refine proper_of_ofRatio? ?_ h
  rw [Nat.shiftLeft_eq]
  have some_divisor := Nat.pos_of_ne_zero none
  positivity

/-- Every step of a scaling rounds, and where there is none the magnitude is as it was. -/
theorem proper_of_scale? {fuel : Nat} {e : Int} (proper : a.Proper)
    (h : scale? fuel a e = some x) : x.Proper := by
  induction fuel generalizing a e with
  | zero =>
    cases h
    exact proper
  | succ fuel ih =>
    unfold scale? at h
    split_ifs at h with near up zero
    · obtain ⟨p, -, scaled⟩ := Option.bind_eq_some_iff.mp h
      exact proper_of_mul? scaled
    · obtain ⟨p, -, scaled⟩ := Option.bind_eq_some_iff.mp h
      exact proper_of_div? scaled
    · cases h
      exact proper
    · obtain ⟨p, -, scaled⟩ := Option.bind_eq_some_iff.mp h
      obtain ⟨g, divided, more⟩ := Option.bind_eq_some_iff.mp scaled
      exact ih (proper_of_div? divided) more

/-- **Digits and an exponent make a magnitude of the format.** -/
theorem proper_of_ofDecimal? {digits : Nat} {e : Int} (h : ofDecimal? digits e = some x) :
    x.Proper := by
  obtain ⟨f, rounded, scaled⟩ := Option.bind_eq_some_iff.mp h
  exact proper_of_scale? (proper_of_ofNat? rounded) scaled

end Magnitude

namespace Json

/-! ## §2. Numbers. -/

/-- A reader of numbers of the format. -/
def ReadsProper (read : Parse Number) : Prop :=
  ∀ {input x rest}, read input = .ok (x, rest) → x.Proper

theorem floatOf_proper (negative : Bool) (significand : Nat) (exponent : Int) :
    ReadsProper (floatOf negative significand exponent) := by
  intro input x rest h
  unfold floatOf at h
  split at h
  case h_1 m made =>
    cases h
    exact Magnitude.proper_of_ofDecimal? made
  case h_2 => cases h

theorem exponentPart_proper (negative : Bool) (significand : Nat) (start : Int) :
    ReadsProper (exponentPart negative significand start) := by
  intro input x rest h
  unfold exponentPart at h
  dsimp only at h
  split at h
  · cases h
  split at h
  · cases h
  split at h
  · exact floatOf_proper _ _ _ h
  split_ifs at h
  cases h
  exact Magnitude.proper_zero

theorem fraction_proper (negative : Bool) (significand : Nat) (start : Int) :
    ReadsProper (fraction negative significand start) := by
  intro input x rest h
  unfold fraction at h
  dsimp only at h
  split_ifs at h
  · split at h <;> cases h
  · split at h
    · split_ifs at h
      · exact exponentPart_proper _ _ _ h
      · exact floatOf_proper _ _ _ h
    · exact floatOf_proper _ _ _ h

theorem integerOf_proper (negative : Bool) (n : Nat) : ReadsProper (integerOf negative n) := by
  intro input x rest h
  unfold integerOf at h
  split_ifs at h
  · cases h
    trivial
  · exact floatOf_proper _ _ _ h
  · cases h
    trivial

theorem afterInteger_proper (negative : Bool) (run : DigitRun) :
    ReadsProper (afterInteger negative run) := by
  intro input x rest h
  unfold afterInteger at h
  split at h
  · split_ifs at h
    · exact fraction_proper _ _ _ h
    · exact exponentPart_proper _ _ _ h
    · exact floatOf_proper _ _ _ h
    · exact integerOf_proper _ _ h
  · split_ifs at h
    · exact floatOf_proper _ _ _ h
    · exact integerOf_proper _ _ h

theorem numberToken_proper (negative : Bool) : ReadsProper (numberToken negative) := by
  intro input x rest h
  unfold numberToken at h
  split at h
  · cases h
  split at h
  · cases h
  · split at h
    · split_ifs at h
      exact afterInteger_proper _ _ h
    · exact afterInteger_proper _ _ h
  · exact afterInteger_proper _ _ h

/-! ## §3. Values. -/

theorem proper_ofFields {fields : List (String × Json)} (each : ∀ f ∈ fields, Json.Proper f.2) :
    Json.Proper (.ofFields fields) := by
  obtain ⟨-, known⟩ := Fields.ascending_foldl fields List.Pairwise.nil
  refine .object fun f hf => ?_
  rcases known f hf with none | h
  · cases none
  · exact each f h

/-- **All that is read from a text is of the format.** -/
theorem proper_of_parse {text : List UInt8} {v : Json} (h : parse text = .ok v) : v.Proper := by
  have hereditary : Hereditary Json.Proper :=
    { null := .null
      bool := .bool
      number := fun read => .number (numberToken_proper _ read)
      string := .string
      array := .array
      object := proper_ofFields }
  exact hereditary.of_parse h

/-- **What is read and written again is the same to its reader.** -/
theorem Compact.read?_of_parse {text : List UInt8} {v : Json} (h : parse text = .ok v) :
    Compact.read? v.render = some v := Compact.read?_render (proper_of_parse h)

end Json

end WorkloadIdentity
