/-
  WorkloadIdentity.Proofs.Decimal.Nearest ──── **A QUOTIENT THAT ROUNDS TO A MAGNITUDE BECOMES IT.**

  The rounding step looks for the power of two below the quotient, and from it takes the unit in
  which the quotient is rounded.  That unit is the last place of the magnitude, except just below a
  power of two, where it is half of it and the carry makes up for that.

  Main results:
    * `binaryOrder_spec`                — the power of two below a quotient
    * `roundHalfEven_eq`                — what is nearest to a quotient
    * `Magnitude.ofRatio?_eq_of_rounds` — the rounding step finds the magnitude
    * `Magnitude.ofRatio?_shortest`     — and so the decimal that is shown is read as what it shows
    * `Magnitude.proper_of_ofRatio?`    — it makes nothing but magnitudes of the format
-/
import WorkloadIdentity.Proofs.Decimal.Interval

namespace WorkloadIdentity

/-! ## §1. The order of a quotient. -/

section Order

variable {num den : Nat}

/-- Shifting both sides divides the quotient by a power of two. -/
theorem shifted_quotient (num den : Nat) (e : Int) :
    ((num <<< downward e : Nat) : ℚ) / (den <<< upward e : Nat) = (num / den : ℚ) / 2 ^ e := by
  rw [cast_shiftLeft, cast_shiftLeft, ← upward_div_downward 2 e]
  field_simp

theorem shifted_lt_iff (positive : 0 < den) (e : Int) :
    num <<< downward e < den <<< upward e ↔ (num / den : ℚ) < 2 ^ e := by
  have whole : (0 : ℚ) < den := by exact_mod_cast positive
  have part : (0 : ℚ) < 2 ^ downward e := by positivity
  rw [← Nat.cast_lt (α := ℚ), cast_shiftLeft, cast_shiftLeft, ← upward_div_downward 2 e,
    div_lt_div_iff₀ whole part, mul_comm ((2 : ℚ) ^ upward e)]

/-- The two logarithms bound the quotient up to a factor of two on either side. -/
theorem log2_bounds (some_num : 0 < num) (some_den : 0 < den) :
    (2 : ℚ) ^ ((Nat.log2 num : Int) - Nat.log2 den - 1) ≤ num / den ∧
      (num / den : ℚ) < 2 ^ ((Nat.log2 num : Int) - Nat.log2 den + 1) := by
  have whole : (0 : ℚ) < den := by exact_mod_cast some_den
  -- each of the two is at least its power of two, and less than twice that
  have num_above : (2 : ℚ) ^ Nat.log2 num ≤ num := by
    exact_mod_cast Nat.log2_self_le some_num.ne'
  have num_below : (num : ℚ) < 2 ^ (Nat.log2 num + 1) := by exact_mod_cast Nat.lt_log2_self
  have den_above : (2 : ℚ) ^ Nat.log2 den ≤ den := by
    exact_mod_cast Nat.log2_self_le some_den.ne'
  have den_below : (den : ℚ) < 2 ^ (Nat.log2 den + 1) := by exact_mod_cast Nat.lt_log2_self
  constructor
  · rw [le_div_iff₀ whole]
    calc (2 : ℚ) ^ ((Nat.log2 num : Int) - Nat.log2 den - 1) * den
        ≤ 2 ^ ((Nat.log2 num : Int) - Nat.log2 den - 1) * 2 ^ (Nat.log2 den + 1) := by gcongr
      _ = 2 ^ Nat.log2 num := by
          rw [← zpow_natCast, ← zpow_natCast, ← zpow_add₀ two_ne_zero]
          congr 1
          push_cast
          ring
      _ ≤ num := num_above
  · rw [div_lt_iff₀ whole]
    calc (num : ℚ) < 2 ^ (Nat.log2 num + 1) := num_below
      _ = 2 ^ ((Nat.log2 num : Int) - Nat.log2 den + 1) * 2 ^ Nat.log2 den := by
          rw [← zpow_natCast, ← zpow_natCast, ← zpow_add₀ two_ne_zero]
          congr 1
          push_cast
          ring
      _ ≤ 2 ^ ((Nat.log2 num : Int) - Nat.log2 den + 1) * den := by gcongr

/-- **The power of two below a quotient.** -/
theorem binaryOrder_spec (some_num : 0 < num) (some_den : 0 < den) :
    (2 : ℚ) ^ binaryOrder num den ≤ num / den ∧
      (num / den : ℚ) < 2 ^ (binaryOrder num den + 1) := by
  obtain ⟨above, below⟩ := log2_bounds some_num some_den
  unfold binaryOrder
  dsimp only
  split_ifs with less
  · rw [shifted_lt_iff some_den] at less
    rw [sub_add_cancel]
    exact ⟨above, less⟩
  · rw [shifted_lt_iff some_den, not_lt] at less
    exact ⟨less, below⟩

theorem binaryOrder_lt (some_num : 0 < num) (some_den : 0 < den) {e : Int}
    (below : (num / den : ℚ) < 2 ^ e) : binaryOrder num den < e := by
  have least := (binaryOrder_spec some_num some_den).1
  exact (zpow_lt_zpow_iff_right₀ one_lt_two).mp (least.trans_lt below)

theorem le_binaryOrder (some_num : 0 < num) (some_den : 0 < den) {e : Int}
    (above : (2 : ℚ) ^ e ≤ num / den) : e ≤ binaryOrder num den := by
  have most := (binaryOrder_spec some_num some_den).2
  exact Int.lt_add_one_iff.mp ((zpow_lt_zpow_iff_right₀ one_lt_two).mp (above.trans_lt most))

/-- The order of a quotient that is known in units of some power of two. -/
theorem binaryOrder_eq (some_num : 0 < num) (some_den : 0 < den) {e : Int} {k : Nat}
    (above : (2 : ℚ) ^ k ≤ (num / den : ℚ) / 2 ^ e)
    (below : (num / den : ℚ) / 2 ^ e < 2 ^ (k + 1)) : binaryOrder num den = e + k := by
  have unit : (0 : ℚ) < 2 ^ e := zpow_pos two_pos _
  rw [le_div_iff₀ unit, ← zpow_natCast, ← zpow_add₀ two_ne_zero] at above
  rw [div_lt_iff₀ unit, ← zpow_natCast, ← zpow_add₀ two_ne_zero] at below
  have least := le_binaryOrder some_num some_den above
  have most := binaryOrder_lt some_num some_den below
  push_cast at most
  omega

end Order

/-! ## §2. The nearest whole number. -/

/-- A whole number is at most half a unit away, and less if it is odd. -/
structure Nearest (m : Nat) (t : ℚ) : Prop where
  /-- Not more than half a unit below. -/
  above : (m : ℚ) - 1 / 2 ≤ t
  /-- Not more than half a unit above. -/
  below : t ≤ m + 1 / 2
  /-- At half a unit there is an even one. -/
  within : m % 2 ≠ 0 → (m : ℚ) - 1 / 2 < t ∧ t < m + 1 / 2

/-- **What is nearest to a quotient.** -/
theorem roundHalfEven_eq {num den m : Nat} (positive : 0 < den) (h : Nearest m (num / den)) :
    roundHalfEven num den = m := by
  have whole : (0 : ℚ) < den := by exact_mod_cast positive
  have above : 2 * (den * m) ≤ 2 * num + den := by
    have scaled := (le_div_iff₀ whole).mp h.above
    have doubled : (2 * (den * m) : ℚ) ≤ 2 * num + den := by linarith
    exact_mod_cast doubled
  have below : 2 * num ≤ 2 * (den * m) + den := by
    have scaled := (div_le_iff₀ whole).mp h.below
    have doubled : (2 * num : ℚ) ≤ 2 * (den * m) + den := by linarith
    exact_mod_cast doubled
  have within : m % 2 ≠ 0 → 2 * (den * m) < 2 * num + den ∧ 2 * num < 2 * (den * m) + den := by
    intro odd
    obtain ⟨low, high⟩ := h.within odd
    have scaled_low := (lt_div_iff₀ whole).mp low
    have scaled_high := (div_lt_iff₀ whole).mp high
    have doubled_low : (2 * (den * m) : ℚ) < 2 * num + den := by linarith
    have doubled_high : (2 * num : ℚ) < 2 * (den * m) + den := by linarith
    exact ⟨by exact_mod_cast doubled_low, by exact_mod_cast doubled_high⟩
  have parts : den * (num / den) + num % den = num := Nat.div_add_mod num den
  have rest : num % den < den := Nat.mod_lt num positive
  unfold roundHalfEven
  dsimp only
  generalize num / den = q at *
  generalize num % den = r at *
  -- the quotient without its rest is the number or the one before it
  obtain rfl | rfl : q = m ∨ q + 1 = m := by
    rcases Nat.lt_or_ge m q with beyond | reached
    · have far := Nat.mul_le_mul_left den beyond
      rw [Nat.mul_succ] at far
      omega
    · rcases Nat.lt_or_ge (q + 1) m with short | close
      · have far := Nat.mul_le_mul_left den short
        rw [Nat.mul_succ, Nat.mul_succ] at far
        omega
      · omega
  · split_ifs with less more even
    · rfl
    · omega
    · rfl
    · have strict := within even
      omega
  · rw [Nat.mul_succ] at above within
    split_ifs with less more even
    · omega
    · rfl
    · have strict := within (by omega)
      omega
    · rfl

/-- It is not below a whole number that the quotient reaches. -/
theorem le_roundHalfEven {num den a : Nat} (positive : 0 < den) (h : (a : ℚ) ≤ num / den) :
    a ≤ roundHalfEven num den := by
  have whole : (0 : ℚ) < den := by exact_mod_cast positive
  have reached : a ≤ num / den :=
    (Nat.le_div_iff_mul_le positive).mpr (by exact_mod_cast (le_div_iff₀ whole).mp h)
  unfold roundHalfEven
  dsimp only
  split_ifs <;> omega

/-- It is not above a whole number that the quotient stays under. -/
theorem roundHalfEven_le {num den b : Nat} (positive : 0 < den) (h : (num / den : ℚ) < b) :
    roundHalfEven num den ≤ b := by
  have whole : (0 : ℚ) < den := by exact_mod_cast positive
  have under : num / den < b :=
    (Nat.div_lt_iff_lt_mul positive).mpr (by exact_mod_cast (div_lt_iff₀ whole).mp h)
  unfold roundHalfEven
  dsimp only
  split_ifs <;> omega

/-! ## §3. The rounding step. -/

namespace Magnitude

variable {x : Magnitude} {num den : Nat}

/-- What the rounding step makes of a unit and the number of units. -/
theorem ofRatio?_eq (some_num : 0 < num) (some_den : 0 < den) {q : Int} {m : Nat}
    (unit : max (binaryOrder num den - 52) (-1074) = q) (h : Nearest m ((num / den : ℚ) / 2 ^ q)) :
    ofRatio? num den = let carried : Magnitude :=
        if m = 2 * leastNormal then ⟨leastNormal, q + 1⟩ else ⟨m, q⟩
      if 971 < carried.exponent then none else some carried := by
  have positive : 0 < den <<< upward q := by
    rw [Nat.shiftLeft_eq]
    positivity
  rw [← shifted_quotient] at h
  unfold ofRatio?
  rw [if_neg some_num.ne']
  dsimp only
  rw [unit, roundHalfEven_eq positive h]

/-- Where the interval is not cut short, its ends are half a unit away. -/
theorem Rounds.nearest {r : ℚ} (h : x.Rounds r) : Nearest x.mantissa (r / 2 ^ x.exponent) := by
  have upper := x.cast_upperEnd
  have lower := x.sub_two_le_lowerEnd
  have position : x.inQuarters r = 4 * (r / 2 ^ x.exponent) := mul_div_assoc _ _ _
  obtain ⟨above, below, within⟩ := h
  rw [position] at above below within
  refine ⟨by linarith, by linarith, fun odd => ?_⟩
  obtain ⟨low, high⟩ := within odd
  constructor <;> linarith

/-- In its own last place a magnitude is found as it is. -/
theorem ofRatio?_of_unit (proper : x.Proper) (some_num : 0 < num) (some_den : 0 < den)
    (unit : max (binaryOrder num den - 52) (-1074) = x.exponent) (h : x.Rounds (num / den)) :
    ofRatio? num den = some x := by
  have narrow := proper.narrow
  have greatest := proper.greatest
  rw [ofRatio?_eq some_num some_den unit h.nearest]
  dsimp only
  rw [if_neg narrow.ne]
  dsimp only
  rw [if_neg greatest.not_gt]

/-- Just below a power of two the unit is half of the last place, and the carry makes up for it. -/
theorem ofRatio?_of_cut (proper : x.Proper) (some_num : 0 < num) (some_den : 0 < den)
    (cut : x.Cut) (under : (num / den : ℚ) / 2 ^ x.exponent < leastNormal) (h : x.Rounds (num / den)) :
    ofRatio? num den = some x := by
  have greatest := proper.greatest
  have least := cut.2
  have mantissa : (x.mantissa : ℚ) = 2 ^ 52 := by exact_mod_cast cut.1
  have lower : 4 * 2 ^ 52 - 1 ≤ 4 * ((num / den : ℚ) / 2 ^ x.exponent) := by
    rw [← mantissa, ← cast_lowerEnd_of_cut cut, ← mul_div_assoc]
    exact h.above
  rw [← cut.1, mantissa] at under
  have order : binaryOrder num den = x.exponent + (51 : Nat) :=
    binaryOrder_eq some_num some_den (by linarith) under
  have half : (num / den : ℚ) / 2 ^ (x.exponent - 1) = 2 * ((num / den : ℚ) / 2 ^ x.exponent) := by
    rw [zpow_sub_one₀ two_ne_zero]
    field_simp
  have near : Nearest (2 * leastNormal) ((num / den : ℚ) / 2 ^ (x.exponent - 1)) := by
    have double : ((2 * leastNormal : Nat) : ℚ) = 2 * 2 ^ 52 := by
      rw [← cut.1, Nat.cast_mul, mantissa, Nat.cast_ofNat]
    rw [half]
    refine ⟨?_, ?_, fun odd => absurd rfl odd⟩ <;> (rw [double]; linarith)
  rw [ofRatio?_eq some_num some_den (q := x.exponent - 1) (by omega) near]
  dsimp only
  rw [if_pos rfl, if_neg (by dsimp only; omega), sub_add_cancel, ← cut.1]

/-- **A quotient that rounds to a magnitude becomes it.** -/
theorem ofRatio?_eq_of_rounds (proper : x.Proper) (nonzero : x.mantissa ≠ 0) (some_den : 0 < den)
    (h : x.Rounds (num / den)) : ofRatio? num den = some x := by
  have least := proper.least
  have near := h.nearest
  have one : (1 : ℚ) ≤ x.mantissa := by exact_mod_cast Nat.pos_of_ne_zero nonzero
  have narrow : (x.mantissa : ℚ) ≤ 9007199254740991 := by
    exact_mod_cast Nat.le_of_lt_succ proper.narrow
  have some_num : 0 < num := by
    rw [Nat.pos_iff_ne_zero]
    rintro rfl
    have above := near.above
    rw [Nat.cast_zero, zero_div, zero_div] at above
    linarith
  have below := near.below
  -- the order tells whether there are fewer last places than a normal mantissa has
  by_cases under : (num / den : ℚ) / 2 ^ x.exponent < leastNormal
  · by_cases cut : x.Cut
    · exact ofRatio?_of_cut proper some_num some_den cut under h
    · -- a subnormal magnitude, or the least that is none
      have bottom : x.exponent = -1074 := by
        by_contra other
        have normal : leastNormal ≤ x.mantissa := not_lt.mp (mt proper.subnormal other)
        unfold Cut at cut
        have next : leastNormal + 1 ≤ x.mantissa := by omega
        have far : (leastNormal : ℚ) + 1 ≤ x.mantissa := by exact_mod_cast next
        have above := near.above
        linarith
      have order : binaryOrder num den < -1022 := by
        refine binaryOrder_lt some_num some_den ?_
        rw [bottom, div_lt_iff₀ (by positivity)] at under
        refine under.trans_eq ?_
        rw [show leastNormal = 2 ^ 52 from rfl, Nat.cast_pow, Nat.cast_ofNat, ← zpow_natCast,
          ← zpow_add₀ two_ne_zero]
        rfl
      exact ofRatio?_of_unit proper some_num some_den (by omega) h
  · -- the order is that of the mantissa
    rw [not_lt, show leastNormal = 2 ^ 52 from rfl, Nat.cast_pow, Nat.cast_ofNat] at under
    have order : binaryOrder num den = x.exponent + (52 : Nat) :=
      binaryOrder_eq some_num some_den under (by linarith)
    exact ofRatio?_of_unit proper some_num some_den (by omega) h

/-- **The decimal that is shown for a magnitude is read as the magnitude**, in whatever way the
decimal is made a quotient. -/
theorem ofRatio?_shortest (proper : x.Proper) (some_den : 0 < den)
    (quotient : (num / den : ℚ) = x.shortest.val) : ofRatio? num den = some x := by
  by_cases zero : x.mantissa = 0
  · have no_num : num = 0 := by
      rw [val_shortest_of_zero zero, div_eq_zero_iff] at quotient
      rcases quotient with none | none
      · exact_mod_cast none
      · exact absurd (by exact_mod_cast none) some_den.ne'
    have exponent := proper.subnormal (by rw [zero]; decide)
    rw [ofRatio?, if_pos no_num, Magnitude.zero, ← zero, ← exponent]
  · exact ofRatio?_eq_of_rounds proper zero some_den (quotient ▸ rounds_shortest proper zero)

/-- **Whatever the rounding step makes is a magnitude of the format.** -/
theorem proper_of_ofRatio? (some_den : 0 < den) (h : ofRatio? num den = some x) : x.Proper := by
  unfold ofRatio? at h
  split_ifs at h with zero
  · cases h
    exact ⟨by decide, by decide, by decide, fun _ => rfl⟩
  dsimp only at h
  obtain ⟨least, most⟩ := binaryOrder_spec (Nat.pos_of_ne_zero zero) some_den
  generalize unit : max (binaryOrder num den - 52) (-1074) = q at h
  have power : (0 : ℚ) < 2 ^ q := zpow_pos two_pos _
  have positive : 0 < den <<< upward q := by
    rw [Nat.shiftLeft_eq]
    positivity
  have narrow : roundHalfEven (num <<< downward q) (den <<< upward q) ≤ 2 * leastNormal := by
    refine roundHalfEven_le positive ?_
    rw [shifted_quotient, div_lt_iff₀ power, show 2 * leastNormal = 2 ^ 53 from rfl, Nat.cast_pow,
      Nat.cast_ofNat, ← zpow_natCast, ← zpow_add₀ two_ne_zero]
    exact most.trans_le (zpow_le_zpow_right₀ one_le_two (by push_cast; omega))
  have normal : q ≠ -1074 → leastNormal
      ≤ roundHalfEven (num <<< downward q) (den <<< upward q) := by
    intro above
    refine le_roundHalfEven positive ?_
    rw [shifted_quotient, le_div_iff₀ power, show leastNormal = 2 ^ 52 from rfl, Nat.cast_pow,
      Nat.cast_ofNat, ← zpow_natCast, ← zpow_add₀ two_ne_zero]
    exact (zpow_le_zpow_right₀ one_le_two (by push_cast; omega)).trans least
  generalize roundHalfEven (num <<< downward q) (den <<< upward q) = m at h narrow normal
  by_cases carry : m = 2 * leastNormal
  · rw [if_pos carry] at h
    split_ifs at h with overflow
    cases h
    have narrower : leastNormal < 2 * leastNormal := by decide
    exact ⟨narrower, by dsimp only; omega, not_lt.mp overflow, fun below => absurd below (lt_irrefl _)⟩
  · rw [if_neg carry] at h
    split_ifs at h with overflow
    cases h
    exact ⟨lt_of_le_of_ne narrow carry, by dsimp only; omega, not_lt.mp overflow,
      fun below => by_contra fun above => absurd (normal above) (not_le.mpr below)⟩

end Magnitude

end WorkloadIdentity
