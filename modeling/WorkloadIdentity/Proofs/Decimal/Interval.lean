/-
  WorkloadIdentity.Proofs.Decimal.Interval ──── **THE DECIMAL OF A MAGNITUDE ROUNDS TO IT.**

  Magnitudes and decimals are rational numbers.  What rounds to a magnitude lies between two ends,
  which belong to it if its mantissa is even.  A decimal that was found on a grid was tested for
  that; and on the grid of seventeen digits one of the two neighbours always passes the test, since
  a step of that grid is shorter than the interval.

  Main results:
    * `Magnitude.admits_iff`      — the test on whole numbers is the membership of the rational
    * `Magnitude.rounds_shortest` — the decimal that is shown for a magnitude rounds to it
-/
import Mathlib.Algebra.Order.Field.Power
import Mathlib.Algebra.Order.Field.Rat
import Mathlib.Algebra.Order.Floor.Semifield
import Mathlib.Data.Nat.Cast.Field
import Mathlib.Tactic.FieldSimp
import Mathlib.Tactic.Linarith
import Mathlib.Tactic.Positivity
import Mathlib.Tactic.Ring
import WorkloadIdentity.Decimal.Shortest

namespace WorkloadIdentity

/-! ## §1. Powers with a sign. -/

/-- A power is the quotient of its two parts, one of which is one. -/
theorem upward_div_downward (b : ℚ) (e : Int) : b ^ upward e / b ^ downward e = b ^ e := by
  unfold upward downward
  obtain ⟨n, rfl | rfl⟩ := e.eq_nat_or_neg <;> simp

theorem pow_upward {b : ℚ} (h : b ≠ 0) (e : Int) : b ^ upward e = b ^ e * b ^ downward e := by
  rw [← upward_div_downward b e, div_mul_cancel₀ _ (pow_ne_zero _ h)]

/-- A whole number shifted by the parts of an exponent. -/
theorem cast_shiftLeft (n k : Nat) : ((n <<< k : Nat) : ℚ) = n * 2 ^ k := by
  rw [Nat.shiftLeft_eq]
  push_cast
  rfl

/-! ## §2. Values. -/

/-- The rational number that a magnitude is. -/
def Magnitude.val (x : Magnitude) : ℚ := x.mantissa * 2 ^ x.exponent

/-- The rational number that a decimal is. -/
def Decimal.val (d : Decimal) : ℚ := d.digits * 10 ^ d.exponent

/-- **A magnitude of the format**: the mantissa is in its range and the exponent in its own, which
is the least one for a mantissa that is not normalized. -/
structure Magnitude.Proper (x : Magnitude) : Prop where
  /-- The mantissa has at most 53 bits. -/
  narrow : x.mantissa < 2 * leastNormal
  /-- The exponent is not below the least. -/
  least : -1074 ≤ x.exponent
  /-- Nor above the greatest. -/
  greatest : x.exponent ≤ 971
  /-- A small mantissa has the least exponent. -/
  subnormal : x.mantissa < leastNormal → x.exponent = -1074

/-- A rational number in quarter units of the last place of a magnitude. -/
def Magnitude.inQuarters (x : Magnitude) (r : ℚ) : ℚ := 4 * r / 2 ^ x.exponent

/-- **A number rounds to a magnitude**: it lies between the ends, and it is none of them if the
mantissa is odd. -/
structure Magnitude.Rounds (x : Magnitude) (r : ℚ) : Prop where
  /-- It is not below the lower end. -/
  above : x.lowerEnd ≤ x.inQuarters r
  /-- It is not above the upper end. -/
  below : x.inQuarters r ≤ x.upperEnd
  /-- Between odd neighbours it is neither. -/
  within : x.mantissa % 2 ≠ 0 → x.lowerEnd < x.inQuarters r ∧ x.inQuarters r < x.upperEnd

namespace Magnitude

variable {x : Magnitude}

/-- The interval is cut short below a power of two, unless the magnitudes there are subnormal. -/
def Cut (x : Magnitude) : Prop := x.mantissa = leastNormal ∧ -1074 < x.exponent

theorem cast_quarters (x : Magnitude) : (x.quarters : ℚ) = 4 * x.mantissa := by
  unfold quarters
  push_cast
  rfl

theorem cast_upperEnd (x : Magnitude) : (x.upperEnd : ℚ) = 4 * x.mantissa + 2 := by
  unfold upperEnd
  push_cast [cast_quarters]
  rfl

theorem cast_lowerEnd_of_cut (cut : x.Cut) : (x.lowerEnd : ℚ) = 4 * x.mantissa - 1 := by
  have some_unit : 0 < leastNormal := by decide
  have mantissa := cut.1
  unfold Cut at cut
  unfold lowerEnd
  rw [if_pos cut, Nat.cast_sub (by unfold quarters; omega), cast_quarters, Nat.cast_one]

theorem cast_lowerEnd (nonzero : x.mantissa ≠ 0) (whole : ¬ x.Cut) :
    (x.lowerEnd : ℚ) = 4 * x.mantissa - 2 := by
  unfold Cut at whole
  unfold lowerEnd
  rw [if_neg whole, Nat.cast_sub (by unfold quarters; omega), cast_quarters, Nat.cast_ofNat]

/-- Cut short or not, the lower end is at most half a unit below. -/
theorem sub_two_le_lowerEnd (x : Magnitude) : 4 * (x.mantissa : ℚ) - 2 ≤ x.lowerEnd := by
  have whole : 4 * x.mantissa ≤ x.lowerEnd + 2 := by
    unfold lowerEnd quarters
    split_ifs <;> omega
  have cast : (4 * x.mantissa : ℚ) ≤ x.lowerEnd + 2 := by exact_mod_cast whole
  linarith

theorem inQuarters_val (x : Magnitude) : x.inQuarters x.val = x.quarters := by
  have unit : (2 : ℚ) ^ x.exponent ≠ 0 := zpow_ne_zero _ two_ne_zero
  unfold inQuarters val
  rw [cast_quarters]
  field_simp

end Magnitude

/-! ## §3. Comparisons. -/

section Comparison

variable {a b : Nat} {k p : Int}

/-- Both sides are multiplied by the same number when they are made whole. -/
theorem scaled_sides (a b : Nat) (k p : Int) :
    ∃ c : ℚ, 0 < c ∧
      (((a * Nat.pow 10 (upward k)) <<< downward p : Nat) : ℚ) = a * 10 ^ k * c ∧
      (((b * Nat.pow 10 (downward k)) <<< upward p : Nat) : ℚ) = b * 2 ^ p * c := by
  refine ⟨10 ^ downward k * 2 ^ downward p, by positivity, ?_, ?_⟩
  · rw [cast_shiftLeft, Nat.cast_mul, show Nat.pow 10 (upward k) = 10 ^ upward k from rfl,
      Nat.cast_pow, Nat.cast_ofNat, pow_upward (by norm_num) k]
    ring
  · rw [cast_shiftLeft, Nat.cast_mul, show Nat.pow 10 (downward k) = 10 ^ downward k from rfl,
      Nat.cast_pow, Nat.cast_ofNat, pow_upward two_ne_zero p]
    ring

theorem compareScaled_eq_lt_iff :
    compareScaled a k b p = .lt ↔ (a * 10 ^ k : ℚ) < b * 2 ^ p := by
  obtain ⟨c, positive, left, right⟩ := scaled_sides a b k p
  unfold compareScaled
  rw [Nat.compare_eq_lt, ← Nat.cast_lt (α := ℚ), left, right, mul_lt_mul_iff_left₀ positive]

theorem compareScaled_eq_gt_iff :
    compareScaled a k b p = .gt ↔ (b * 2 ^ p : ℚ) < a * 10 ^ k := by
  obtain ⟨c, positive, left, right⟩ := scaled_sides a b k p
  unfold compareScaled
  rw [Nat.compare_eq_gt, ← Nat.cast_lt (α := ℚ), left, right, mul_lt_mul_iff_left₀ positive]

end Comparison

namespace Magnitude

variable (x : Magnitude)

/-- Two exponents below, the unit is a quarter of the last place. -/
theorem quarter_unit : (2 : ℚ) ^ (x.exponent - 2) = 2 ^ x.exponent / 4 := by
  rw [zpow_sub₀ two_ne_zero]
  norm_num

theorem lt_quarters_iff (n : Nat) (r : ℚ) :
    r < n * 2 ^ (x.exponent - 2) ↔ x.inQuarters r < n := by
  have unit : (0 : ℚ) < 2 ^ x.exponent := zpow_pos two_pos _
  unfold inQuarters
  rw [quarter_unit, div_lt_iff₀ unit]
  constructor <;> intro h <;> linarith

theorem quarters_lt_iff (n : Nat) (r : ℚ) :
    n * 2 ^ (x.exponent - 2) < r ↔ n < x.inQuarters r := by
  have unit : (0 : ℚ) < 2 ^ x.exponent := zpow_pos two_pos _
  unfold inQuarters
  rw [quarter_unit, lt_div_iff₀ unit]
  constructor <;> intro h <;> linarith

/-- **The test on whole numbers is the membership of the rational.** -/
theorem admits_iff (d : Decimal) : x.admits d = true ↔ x.Rounds d.val := by
  have low_lt : compareScaled d.digits d.exponent x.lowerEnd (x.exponent - 2) = .lt
      ↔ x.inQuarters d.val < x.lowerEnd := compareScaled_eq_lt_iff.trans (x.lt_quarters_iff _ _)
  have low_gt : compareScaled d.digits d.exponent x.lowerEnd (x.exponent - 2) = .gt
      ↔ x.lowerEnd < x.inQuarters d.val := compareScaled_eq_gt_iff.trans (x.quarters_lt_iff _ _)
  have high_lt : compareScaled d.digits d.exponent x.upperEnd (x.exponent - 2) = .lt
      ↔ x.inQuarters d.val < x.upperEnd := compareScaled_eq_lt_iff.trans (x.lt_quarters_iff _ _)
  have high_gt : compareScaled d.digits d.exponent x.upperEnd (x.exponent - 2) = .gt
      ↔ x.upperEnd < x.inQuarters d.val := compareScaled_eq_gt_iff.trans (x.quarters_lt_iff _ _)
  unfold admits
  -- the ends are admitted if the mantissa is even, and only then
  by_cases even : x.mantissa % 2 = 0
  · simp only [if_pos even, Bool.and_eq_true, bne_iff_ne, ne_eq, low_lt, high_gt, not_lt]
    exact ⟨fun h => ⟨h.1, h.2, absurd even⟩, fun h => ⟨h.above, h.below⟩⟩
  · simp only [if_neg even, Bool.and_eq_true, beq_iff_eq, low_gt, high_lt]
    exact ⟨fun h => ⟨h.1.le, h.2.le, fun _ => h⟩, fun h => h.within even⟩

/-! ## §4. Grids. -/

/-- The value lies between a point of a grid and the next one. -/
theorem floorOn_spec (k : Int) :
    (Decimal.mk (x.floorOn k) k).val ≤ x.val ∧ x.val < (Decimal.mk (x.floorOn k + 1) k).val := by
  obtain ⟨c, positive, step, whole⟩ := scaled_sides 1 x.quarters k (x.exponent - 2)
  have grid : (0 : ℚ) < 10 ^ k := zpow_pos (by norm_num) _
  have value : (x.quarters : ℚ) * 2 ^ (x.exponent - 2) = x.val := by
    unfold quarters val
    rw [quarter_unit]
    push_cast
    ring
  rw [Nat.one_mul, Nat.cast_one, one_mul] at step
  rw [value] at whole
  have some_step : 0 < Nat.pow 10 (upward k) <<< downward (x.exponent - 2) := by
    rw [← Nat.cast_pos (α := ℚ), step]
    positivity
  have least : x.floorOn k * (Nat.pow 10 (upward k) <<< downward (x.exponent - 2))
      ≤ (x.quarters * Nat.pow 10 (downward k)) <<< upward (x.exponent - 2) :=
    Nat.div_mul_le_self _ _
  have next : (x.quarters * Nat.pow 10 (downward k)) <<< upward (x.exponent - 2)
      < (x.floorOn k + 1) * (Nat.pow 10 (upward k) <<< downward (x.exponent - 2)) := by
    rw [Nat.add_one_mul]
    exact Nat.lt_div_mul_add some_step
  rw [← Nat.cast_le (α := ℚ), Nat.cast_mul, step, whole, ← mul_assoc,
    mul_le_mul_iff_left₀ positive] at least
  rw [← Nat.cast_lt (α := ℚ), Nat.cast_mul, step, whole, ← mul_assoc,
    mul_lt_mul_iff_left₀ positive] at next
  exact ⟨least, next⟩

/-- The point that is taken on a grid rounds to the magnitude. -/
theorem rounds_onGrid {n : Nat} {d : Decimal} (h : x.onGrid? n = some d) : x.Rounds d.val := by
  unfold onGrid? at h
  dsimp only at h
  split at h
  case h_1 this next =>
    cases h
    rw [← admits_iff]
    -- of two that pass the test the nearer is one
    unfold nearer
    split
    · exact this
    · exact next
    · split_ifs
      · exact this
      · exact next
  case h_2 this _ =>
    cases h
    exact (x.admits_iff _).mp this
  case h_3 _ next =>
    cases h
    exact (x.admits_iff _).mp next
  case h_4 => cases h

/-- If no point is taken, neither neighbour rounds to the magnitude. -/
theorem not_rounds_onGrid {n : Nat} (h : x.onGrid? n = none) :
    ¬ x.Rounds (Decimal.mk (x.floorOn (x.decimalOrder - n + 1)) (x.decimalOrder - n + 1)).val ∧
    ¬ x.Rounds (Decimal.mk (x.floorOn (x.decimalOrder - n + 1) + 1)
      (x.decimalOrder - n + 1)).val := by
  rw [← admits_iff, ← admits_iff]
  unfold onGrid? at h
  dsimp only at h
  split at h
  case h_4 this next => exact ⟨by rw [this]; decide, by rw [next]; decide⟩
  all_goals cases h

variable {x}

/-- A unit of the least exponent is above every power of ten that is not tried. -/
theorem tenPow_decimalOrder_le (proper : x.Proper) (nonzero : x.mantissa ≠ 0) :
    (10 : ℚ) ^ x.decimalOrder ≤ x.val := by
  unfold decimalOrder
  split
  case h_1 e found =>
    have tried := List.find?_some found
    rw [bne_iff_ne, ne_eq, compareScaled_eq_gt_iff, not_lt, Nat.cast_one, one_mul, quarter_unit]
      at tried
    unfold val
    unfold quarters at tried
    push_cast at tried
    linarith
  case h_2 =>
    have powers : 2 ^ 1074 ≤ 10 ^ 324 := by decide +kernel
    calc (10 : ℚ) ^ (-324 : Int) ≤ 2 ^ (-1074 : Int) := by
          rw [zpow_neg, zpow_neg, inv_le_inv₀ (by positivity) (by positivity)]
          exact_mod_cast powers
      _ ≤ 2 ^ x.exponent := zpow_le_zpow_right₀ one_le_two proper.least
      _ ≤ x.mantissa * 2 ^ x.exponent :=
          le_mul_of_one_le_left (by positivity) (by exact_mod_cast Nat.pos_of_ne_zero nonzero)

/-! ## §5. The shortest decimal. -/

theorem rounds_of_between {r : ℚ} (above : x.lowerEnd < x.inQuarters r)
    (below : x.inQuarters r < x.upperEnd) : x.Rounds r :=
  ⟨above.le, below.le, fun _ => ⟨above, below⟩⟩

/-- A step of the grid of seventeen digits is at most the value divided by 10^16. -/
theorem step_seventeen_le (proper : x.Proper) (nonzero : x.mantissa ≠ 0) (n : Nat) :
    (Decimal.mk (n + 1) (x.decimalOrder - 16)).val - (Decimal.mk n (x.decimalOrder - 16)).val
      ≤ x.val / 10 ^ 16 := by
  calc (Decimal.mk (n + 1) (x.decimalOrder - 16)).val - (Decimal.mk n (x.decimalOrder - 16)).val
      = 10 ^ (x.decimalOrder - 16) := by
        unfold Decimal.val
        push_cast
        ring
    _ = 10 ^ x.decimalOrder / 10 ^ 16 := by
        rw [zpow_sub₀ (by norm_num)]
        norm_num
    _ ≤ x.val / 10 ^ 16 :=
        div_le_div_of_nonneg_right (tenPow_decimalOrder_le proper nonzero) (by norm_num)

/-- **On the grid of seventeen digits one of the neighbours rounds to the magnitude.**  A step of
it is shorter than the interval; and where the interval is cut short below a power of two, it is
shorter than its upper half. -/
theorem rounds_seventeen (proper : x.Proper) (nonzero : x.mantissa ≠ 0) :
    x.Rounds (Decimal.mk (x.floorOn (x.decimalOrder - 16)) (x.decimalOrder - 16)).val ∨
    x.Rounds (Decimal.mk (x.floorOn (x.decimalOrder - 16) + 1) (x.decimalOrder - 16)).val := by
  obtain ⟨least, next⟩ := x.floorOn_spec (x.decimalOrder - 16)
  have step := step_seventeen_le proper nonzero (x.floorOn (x.decimalOrder - 16))
  set low := (Decimal.mk (x.floorOn (x.decimalOrder - 16)) (x.decimalOrder - 16)).val
  set high := (Decimal.mk (x.floorOn (x.decimalOrder - 16) + 1) (x.decimalOrder - 16)).val
  have unit : (0 : ℚ) < 2 ^ x.exponent := zpow_pos two_pos _
  -- the same three facts, in quarter units
  have below : x.inQuarters low ≤ x.quarters := by
    rw [← x.inQuarters_val]
    unfold inQuarters
    gcongr
  have above : x.quarters < x.inQuarters high := by
    rw [← x.inQuarters_val]
    unfold inQuarters
    gcongr
  have near : x.inQuarters high - x.inQuarters low ≤ x.quarters / 10 ^ 16 := by
    rw [← x.inQuarters_val]
    unfold inQuarters
    calc 4 * high / 2 ^ x.exponent - 4 * low / 2 ^ x.exponent
        = 4 * (high - low) / 2 ^ x.exponent := by ring
      _ ≤ 4 * (x.val / 10 ^ 16) / 2 ^ x.exponent := by gcongr
      _ = 4 * x.val / 2 ^ x.exponent / 10 ^ 16 := by ring
  have narrow : (x.mantissa : ℚ) < 2 * 4503599627370496 := by exact_mod_cast proper.narrow
  have quarters := x.cast_quarters
  have upper := x.cast_upperEnd
  by_cases cut : x.Cut
  · -- a step is less than two quarters, and so the next point is below the upper end
    have lower := cast_lowerEnd_of_cut cut
    have mantissa : (x.mantissa : ℚ) = 4503599627370496 := by exact_mod_cast cut.1
    right
    apply rounds_of_between <;> linarith
  · -- a step is less than four quarters, and so not both neighbours are outside
    have lower := cast_lowerEnd nonzero cut
    by_cases close : (x.lowerEnd : ℚ) < x.inQuarters low
    · left
      apply rounds_of_between <;> linarith
    · right
      apply rounds_of_between <;> linarith

/-- Taking factors of ten out of the digits changes nothing. -/
theorem val_trim (fuel : Nat) (d : Decimal) : (d.trim fuel).val = d.val := by
  induction fuel generalizing d with
  | zero => rfl
  | succ fuel ih =>
    unfold Decimal.trim
    split_ifs with divisible
    · have ten : (10 : ℚ) ≠ 0 := by norm_num
      rw [ih]
      show ((d.digits / 10 : Nat) : ℚ) * 10 ^ (d.exponent + 1) = d.digits * 10 ^ d.exponent
      rw [Nat.cast_div (Nat.dvd_of_mod_eq_zero divisible.2) ten, zpow_add_one₀ ten, Nat.cast_ofNat]
      field_simp
    · rfl

theorem val_shortest_of_zero (zero : x.mantissa = 0) : x.shortest.val = 0 := by
  unfold shortest
  rw [if_pos zero]
  exact zero_mul _

/-- **The decimal that is shown for a magnitude rounds to it.** -/
theorem rounds_shortest (proper : x.Proper) (nonzero : x.mantissa ≠ 0) :
    x.Rounds x.shortest.val := by
  unfold shortest
  rw [if_neg nonzero]
  split
  case h_1 d found =>
    obtain ⟨n, -, taken⟩ := List.exists_of_findSome?_eq_some found
    rw [val_trim]
    exact x.rounds_onGrid taken
  case h_2 missing =>
    have none := List.findSome?_eq_none_iff.mp missing 16 (by decide)
    obtain ⟨this, next⟩ := x.not_rounds_onGrid none
    have seventeen : x.decimalOrder - ((16 + 1 : Nat) : Int) + 1 = x.decimalOrder - 16 := by omega
    rw [seventeen] at this next
    exact absurd (rounds_seventeen proper nonzero) (not_or.mpr ⟨this, next⟩)

end Magnitude

end WorkloadIdentity
