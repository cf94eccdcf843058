/-
  WorkloadIdentity.Proofs.Json.Consumption ──── **READERS ONLY TAKE.**

  What a reader leaves of a text is never longer than the text.  The loop over the fields of an
  object takes the quote of a name in every round, and so its fuel, which exceeds the length of the
  text, is never used up: how much of it there is makes no difference.

  Main results:
    * `numberToken_takes`, `stringToken_takes`, `skip_passes` — the readers of the values of fields
    * `TextRecord.readFields_fuel` — any fuel that exceeds the length of the text will do
    * `length_lt_of_value`         — the reader of any value takes at least a byte
-/
import WorkloadIdentity.Json.Record
import WorkloadIdentity.Proofs.Json.Fields

namespace WorkloadIdentity.Json

/-! ## §1. Words and texts. -/

/-- A reader leaves no more than it is given. -/
def Takes {α : Type} (read : Parse α) : Prop :=
  ∀ input x rest, read input = .ok (x, rest) → rest.length ≤ input.length

/-- A reader that only looks for an end leaves no more than it is given. -/
def Passes (pass : List UInt8 → Except Failure (List UInt8)) : Prop :=
  ∀ input rest, pass input = .ok rest → rest.length ≤ input.length

theorem length_dropWhile_le (p : UInt8 → Bool) (input : List UInt8) :
    (input.dropWhile p).length ≤ input.length :=
  (List.dropWhile_suffix p).length_le

theorem skipBlanks_le (input : List UInt8) : (skipBlanks input).length ≤ input.length :=
  length_dropWhile_le isBlank input

theorem ident_passes (word : List UInt8) : Passes (ident word) := by
  intro input rest h
  induction word generalizing input with
  | nil =>
    cases h
    exact Nat.le_refl _
  | cons e word ih =>
    cases input with
    | nil => cases h
    | cons b input =>
      simp only [ident] at h
      split at h
      · exact Nat.le_succ_of_le (ih input h)
      · cases h

theorem stringBytes_takes (state : StringState) : Takes (stringBytes state) := by
  intro input
  induction input generalizing state with
  | nil => nofun
  | cons b input ih =>
    intro x rest h
    simp only [stringBytes] at h
    split at h
    · cases h
    · cases h
      exact Nat.le_succ _
    · rename_i out next _
      cases later : stringBytes next input with
      | error f =>
        rw [later] at h
        cases h
      | ok r =>
        rw [later] at h
        cases h
        exact Nat.le_succ_of_le (ih next r.1 r.2 later)

theorem stringToken_takes : Takes stringToken := by
  intro input s rest h
  unfold stringToken at h
  cases read : stringBytes .plain input with
  | error f =>
    rw [read] at h
    cases h
  | ok r =>
    rw [read] at h
    dsimp only [Bind.bind, Except.bind] at h
    split at h
    · cases h
      exact stringBytes_takes _ _ _ _ read
    · cases h

/-! ## §2. Numbers. -/

theorem digitRun_takes (run : DigitRun) (input : List UInt8) :
    (digitRun run input).2.length ≤ input.length := by
  induction input generalizing run with
  | nil => exact Nat.le_refl _
  | cons b input ih =>
    simp only [digitRun]
    split
    · exact Nat.le_refl _
    · split <;> exact Nat.le_succ_of_le (ih _)

/-- The digits of an exponent are taken, and those are taken too that take it out of bounds. -/
theorem exponentDigits_takes (e : Nat) (input : List UInt8) :
    (∀ n rest, exponentDigits e input = .ok (n, rest) → rest.length ≤ input.length) ∧
      ∀ rest, exponentDigits e input = .error rest → rest.length ≤ input.length := by
  induction input generalizing e with
  | nil => exact ⟨fun n rest h => by cases h; exact Nat.le_refl _, nofun⟩
  | cons b input ih =>
    simp only [exponentDigits]
    split
    · exact ⟨fun n rest h => by cases h; exact Nat.le_refl _, nofun⟩
    · split
      · exact ⟨nofun, fun rest h => by cases h; exact Nat.le_succ _⟩
      · exact ⟨fun n rest h => Nat.le_succ_of_le ((ih _).1 n rest h),
          fun rest h => Nat.le_succ_of_le ((ih _).2 rest h)⟩

theorem floatOf_takes (negative : Bool) (significand : Nat) (exponent : Int) :
    Takes (floatOf negative significand exponent) := by
  intro input x rest h
  unfold floatOf at h
  split at h
  · cases h
    exact Nat.le_refl _
  · cases h

theorem exponentPart_takes (negative : Bool) (significand : Nat) (start : Int) :
    Takes (exponentPart negative significand start) := by
  intro input x rest h
  have digits := exponentDigits_takes
  have made := floatOf_takes
  unfold Takes at made
  unfold exponentPart at h
  grind [length_dropWhile_le]

theorem fraction_takes (negative : Bool) (significand : Nat) (start : Int) :
    Takes (fraction negative significand start) := by
  intro input x rest h
  have digits := digitRun_takes ⟨significand, 0, false, 0⟩ input
  have made := floatOf_takes
  have exponent := exponentPart_takes
  unfold Takes at made exponent
  unfold fraction at h
  grind

theorem afterInteger_takes (negative : Bool) (run : DigitRun) :
    Takes (afterInteger negative run) := by
  intro input x rest h
  have made := floatOf_takes
  have exponent := exponentPart_takes
  have fraction := fraction_takes
  unfold Takes at made exponent fraction
  unfold afterInteger integerOf at h
  grind

theorem numberToken_takes (negative : Bool) : Takes (numberToken negative) := by
  intro input x rest h
  have digits := digitRun_takes
  have after := afterInteger_takes
  unfold Takes at after
  unfold numberToken at h
  grind

/-! ## §3. Values nobody asked for. -/

theorem skipString_passes (state : SkipState) : Passes (skipString state) := by
  intro input
  induction input generalizing state with
  | nil => nofun
  | cons b input ih =>
    intro rest h
    unfold skipString at h
    grind

theorem skipExponent_passes : Passes skipExponent := by
  intro input rest h
  unfold skipExponent at h
  grind [length_dropWhile_le]

theorem skipOptionalExponent_passes : Passes skipOptionalExponent := by
  intro input rest h
  have exponent := skipExponent_passes
  unfold Passes at exponent
  unfold skipOptionalExponent at h
  grind

theorem skipFraction_passes : Passes skipFraction := by
  intro input rest h
  have exponent := skipOptionalExponent_passes
  unfold Passes at exponent
  unfold skipFraction at h
  grind [length_dropWhile_le]

theorem skipNumberTail_passes : Passes skipNumber.tail := by
  intro input rest h
  have exponent := skipOptionalExponent_passes
  have fraction := skipFraction_passes
  unfold Passes at exponent fraction
  unfold skipNumber.tail at h
  grind

theorem skipNumber_passes : Passes skipNumber := by
  intro input rest h
  have tail := skipNumberTail_passes
  unfold Passes at tail
  unfold skipNumber at h
  grind [length_dropWhile_le]

theorem skipName_passes : Passes skipName := by
  intro input rest h
  have blanks := skipBlanks_le
  have string := skipString_passes .plain
  unfold Passes at string
  unfold skipName at h
  cases start : skipBlanks input with
  | nil =>
    rw [start] at h
    cases h
  | cons b after =>
    have := blanks input
    rw [start] at h this
    dsimp only at h
    split at h
    · cases read : skipString .plain after with
      | error f =>
        rw [read] at h
        cases h
      | ok left =>
        rw [read] at h
        have := string _ _ read
        have := blanks left
        dsimp only [Bind.bind, Except.bind] at h
        grind
    · cases h

theorem skipToken_takes : Takes skipToken := by
  intro input opened rest h
  have blanks := skipBlanks_le input
  -- every kind of value but the brackets is taken by its own reader
  have scalar {b : UInt8} {start : List UInt8} {pass : List UInt8 → Except Failure (List UInt8)}
      {from' : List UInt8} (found : skipBlanks input = b :: start) (passes : Passes pass)
      (within : from'.length ≤ start.length + 1)
      (h : (pass from').map (fun r => ((none : Option Bracket), r)) = .ok (opened, rest)) :
      rest.length ≤ input.length := by
    obtain ⟨left, read, made⟩ := exists_of_map_ok h
    cases made
    have := passes _ _ read
    rw [found, List.length_cons] at blanks
    omega
  unfold skipToken at h
  split at h
  · cases h
  · rename_i b start found
    split at h
    · exact scalar found (ident_passes _) (Nat.le_succ _) h
    · exact scalar found (ident_passes _) (Nat.le_succ _) h
    · exact scalar found (ident_passes _) (Nat.le_succ _) h
    · exact scalar found skipNumber_passes (Nat.le_succ _) h
    · exact scalar found skipNumber_passes (Nat.le_refl _) h
    · exact scalar found (skipString_passes _) (Nat.le_succ _) h
    · cases h
      rw [found, List.length_cons] at blanks
      omega
    · cases h
      rw [found, List.length_cons] at blanks
      omega
    · cases h

theorem skipFrom_passes (fuel : Nat) (stack : List Bracket) (expecting : Expecting) :
    Passes (skipFrom fuel stack expecting) := by
  intro input rest h
  have blanks := skipBlanks_le input
  induction fuel generalizing stack expecting input with
  | zero =>
    cases h
    exact Nat.le_refl _
  | succ fuel ih =>
    have later (stack : List Bracket) (expecting : Expecting) (left : List UInt8)
        (h : skipFrom fuel stack expecting left = .ok rest) (taken : left.length ≤ input.length) :
        rest.length ≤ input.length :=
      Nat.le_trans (ih stack expecting left h (skipBlanks_le left)) taken
    have name := skipName_passes input
    have token := skipToken_takes input
    unfold skipFrom at h
    dsimp only [bind, Except.bind] at h
    grind

/-- **Passing over a value** takes it and no more. -/
theorem skip_passes : Passes skip := fun input => skipFrom_passes _ _ _ input

/-! ## §4. Names and values of fields. -/

theorem nextKey_takes {first : Bool} {input rest : List UInt8}
    (h : nextKey first input = .ok (true, rest)) : rest.length < input.length := by
  have blanks := skipBlanks_le
  unfold nextKey at h
  grind

theorem colon_passes : Passes colon := by
  intro input rest h
  have blanks := skipBlanks_le input
  unfold colon at h
  grind

theorem readString_takes (depth : Nat) : Takes (readString depth) := by
  intro input x rest h
  have blanks := skipBlanks_le input
  have string := stringToken_takes
  unfold Takes at string
  unfold readString at h
  grind

theorem readNatural_takes (bound : Nat) (expected : String) (depth : Nat) :
    Takes (readNatural bound expected depth) := by
  intro input x rest h
  have blanks := skipBlanks_le input
  have number := numberToken_takes
  unfold Takes at number
  unfold readNatural at h
  grind

theorem readOptional_takes {α : Type} {read : TextReader α} {depth : Nat}
    (h : Takes (read depth)) : Takes (readOptional read depth) := by
  intro input x rest made
  have blanks := skipBlanks_le input
  unfold readOptional at made
  split at made
  · rename_i b start found
    rw [found, List.length_cons] at blanks
    split at made
    · obtain ⟨left, word, made⟩ := exists_of_map_ok made
      cases made
      have := ident_passes _ _ _ word
      omega
    · obtain ⟨r, read, made⟩ := exists_of_map_ok made
      cases made
      exact Nat.le_trans (h _ _ _ read) blanks
  · obtain ⟨r, read, made⟩ := exists_of_map_ok made
    cases made
    exact Nat.le_trans (h _ _ _ read) (Nat.zero_le _)

/-! ## §5. The fuel of an object. -/

/-- The fields of a record take the text of their values and no more. -/
def TextRecord.FieldsTake {σ α : Type} (r : TextRecord σ α) : Prop :=
  ∀ f ∈ r.fields, ∀ depth s, Takes (f.read depth s)

theorem TextField.of_takes {σ α : Type} {name : String} {read : TextReader α}
    {get : σ → Option α} {put : σ → α → σ} (h : ∀ depth, Takes (read depth)) (depth : Nat) (s : σ) :
    Takes ((TextField.of name read get put).read depth s) := by
  intro input x rest made
  obtain ⟨value, read, made⟩ := exists_of_map_ok made
  cases made
  exact h depth _ _ _ read

/-- **Any fuel that exceeds the length of the text will do.** -/
theorem TextRecord.readFields_fuel {σ α : Type} {r : TextRecord σ α} (takes : r.FieldsTake)
    (depth : Nat) {n m : Nat} (first : Bool) (s : σ) {input : List UInt8}
    (hn : input.length < n) (hm : input.length < m) :
    r.readFields depth n first s input = r.readFields depth m first s input := by
  induction n generalizing m first s input with
  | zero => exact absurd hn (Nat.not_lt_zero _)
  | succ n ih =>
    obtain ⟨m, rfl⟩ := Nat.exists_eq_succ_of_ne_zero (Nat.ne_of_gt (Nat.zero_lt_of_lt hm))
    unfold readFields
    cases next : nextKey first input with
    | error f => rfl
    | ok key =>
      obtain ⟨more, start⟩ := key
      cases more with
      | false => rfl
      | true =>
        -- the quote has been taken, and so the text that is left is shorter than the fuel that is
        have shorter := nextKey_takes next
        have on (s : σ) {left : List UInt8} (taken : left.length ≤ start.length) :
            r.readFields depth n false s left = r.readFields depth m false s left :=
          ih false s (by omega) (by omega)
        dsimp only [bind, Except.bind]
        cases name : stringToken start with
        | error f => rfl
        | ok named =>
          have afterName := stringToken_takes _ _ _ name
          dsimp only
          cases found : r.fields.find? (·.name == named.1) with
          | none =>
            dsimp only
            cases mark : colon named.2 with
            | error f => rfl
            | ok left =>
              have afterColon := colon_passes _ _ mark
              dsimp only
              cases passed : skip left with
              | error f => rfl
              | ok left' => exact on s (by have := skip_passes _ _ passed; omega)
          | some f =>
            dsimp only
            split
            · rfl
            · cases mark : colon named.2 with
              | error f => rfl
              | ok left =>
                have afterColon := colon_passes _ _ mark
                dsimp only
                cases read : f.read depth s left with
                | error f => rfl
                | ok r' =>
                  have afterValue :=
                    takes f (List.mem_of_find?_eq_some found) depth s _ _ _ read
                  exact on r'.1 (by omega)

/-! ## §6. Any value. -/

theorem nextItem_takes (first : Bool) : Takes (nextItem first) := by
  intro input follows rest h
  have blanks := skipBlanks_le
  unfold nextItem at h
  grind

theorem nextKey_le (first : Bool) : Takes (nextKey first) := by
  intro input follows rest h
  have blanks := skipBlanks_le
  unfold nextKey at h
  grind

section Loops

variable {α : Type} {item : Parse α}

theorem items_takes (takes : Takes item) (fuel : Nat) (first : Bool) :
    Takes (items item fuel first) := by
  intro input xs rest h
  induction fuel generalizing first input xs with
  | zero => cases h
  | succ fuel ih =>
    obtain ⟨⟨follows, start⟩, next, h⟩ := exists_of_bind_ok h
    have shorter := nextItem_takes first _ _ _ next
    cases follows with
    | false =>
      cases h
      rw [List.length_drop]
      omega
    | true =>
      obtain ⟨⟨x, after⟩, one, h⟩ := exists_of_bind_ok h
      obtain ⟨⟨more, left⟩, others, h⟩ := exists_of_bind_ok h
      cases h
      exact (ih false _ _ others).trans ((takes _ _ _ one).trans shorter)

theorem members_takes (takes : Takes item) (fuel : Nat) (first : Bool) :
    Takes (members item fuel first) := by
  intro input xs rest h
  induction fuel generalizing first input xs with
  | zero => cases h
  | succ fuel ih =>
    obtain ⟨⟨follows, start⟩, next, h⟩ := exists_of_bind_ok h
    have shorter := nextKey_le first _ _ _ next
    cases follows with
    | false =>
      cases h
      rw [List.length_drop]
      omega
    | true =>
      obtain ⟨⟨name, named⟩, one, h⟩ := exists_of_bind_ok h
      obtain ⟨marked, mark, h⟩ := exists_of_bind_ok h
      obtain ⟨⟨x, after⟩, two, h⟩ := exists_of_bind_ok h
      obtain ⟨⟨more, left⟩, others, h⟩ := exists_of_bind_ok h
      cases h
      have name := stringToken_takes _ _ _ one
      have colon := colon_passes _ _ mark
      exact (ih false _ _ others).trans
        ((takes _ _ _ two).trans (colon.trans (name.trans shorter)))

end Loops

theorem numberToken_takes_digit {negative : Bool} {b : UInt8} {start rest : List UInt8}
    {n : Number} (h : numberToken negative (b :: start) = .ok (n, rest)) :
    rest.length ≤ start.length := by
  have digits := digitRun_takes
  have after := afterInteger_takes
  unfold Takes at after
  unfold numberToken at h
  grind

/-- A value takes at least a byte if all values only take that are read one level deeper. -/
theorem length_lt_of_deeper {depth : Nat} {input rest : List UInt8} {v : Json}
    (deeper : ∀ d, depth = d + 1 → Takes (value d)) (h : value depth input = .ok (v, rest)) :
    rest.length < input.length := by
  have blanks := skipBlanks_le input
  unfold value at h
  split at h
  · cases h
  · rename_i b start found
    rw [found, List.length_cons] at blanks
    -- whoever reads the kind is given no more than what follows the first byte
    refine Nat.lt_of_le_of_lt ?_ blanks
    split at h
    case h_1 | h_2 | h_3 =>
      obtain ⟨left, read, same⟩ := exists_of_map_ok h
      cases same
      exact ident_passes _ _ _ read
    case h_4 =>
      obtain ⟨⟨n, left⟩, read, same⟩ := exists_of_map_ok h
      cases same
      exact numberToken_takes _ _ _ _ read
    case h_5 =>
      obtain ⟨⟨n, left⟩, read, same⟩ := exists_of_map_ok h
      cases same
      exact numberToken_takes_digit read
    case h_6 =>
      obtain ⟨⟨s, left⟩, read, same⟩ := exists_of_map_ok h
      cases same
      exact stringToken_takes _ _ _ read
    case h_9 =>
      obtain ⟨⟨vs, left⟩, read, same⟩ := exists_of_map_ok h
      cases same
      exact items_takes (deeper _ rfl) _ _ _ _ _ read
    case h_10 =>
      obtain ⟨⟨fs, left⟩, read, same⟩ := exists_of_map_ok h
      cases same
      exact members_takes (deeper _ rfl) _ _ _ _ _ read
    all_goals cases h

/-- **A value takes at least the byte that it begins with.** -/
theorem length_lt_of_value {depth : Nat} {input rest : List UInt8} {v : Json}
    (h : value depth input = .ok (v, rest)) : rest.length < input.length := by
  induction depth generalizing input rest v with
  | zero => exact length_lt_of_deeper (fun d none => by cases none) h
  | succ depth ih =>
    refine length_lt_of_deeper (fun d same => ?_) h
    cases same
    exact fun _ _ _ read => Nat.le_of_lt (ih read)

end WorkloadIdentity.Json
