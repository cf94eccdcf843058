/-
  WorkloadIdentity.Proofs.Json.Numerals ──── **NUMBERS ARE READ BACK EXACTLY.**

  A reader of numbers that is stated beside the writer and shares nothing with it.  It takes a
  number apart into digits before the point, digits behind it and an exponent.  Without point and
  exponent the number is an integer of any size; otherwise it is the exact decimal, rounded once.

  Main results:
    * `Json.Compact.numeral?_chars` — the parts of a number come back from its text
    * `Json.Compact.exists_numeral` — the text of a decimal is that of a number of the same value
    * `Json.Compact.number?_chars`  — a number is read back, whatever ends it
-/
import WorkloadIdentity.Json.Printer
import WorkloadIdentity.Proofs.Decimal.Nearest

namespace WorkloadIdentity

/-- **A number of the format**: an integer, or a floating point number whose magnitude is one. -/
def Json.Number.Proper : Json.Number → Prop
  | .integer _ => True
  | .float x => x.magnitude.Proper

namespace Json.Compact

/-! ## §1. The reader. -/

/-- What is taken off the characters of a text, and the rest. -/
abbrev Reader (α : Type) := List Char → Option (α × List Char)

/-- The number that decimal digits make. -/
abbrev digitsValue (ds : List Char) : Nat := Nat.ofDigitChars 10 ds 0

/-- Digits, at least one. -/
def digits? : Reader (List Char) := fun input =>
  if input.takeWhile Char.isDigit = [] then none
  else some (input.takeWhile Char.isDigit, input.dropWhile Char.isDigit)

/-- The digits before the point; a zero in front stands alone. -/
def whole? : Reader (List Char) := fun input => do
  let (ds, rest) ← digits? input
  if ds.head? = some '0' ∧ ds ≠ ['0'] then none else some (ds, rest)

/-- A point with the digits behind it, or nothing. -/
def fraction? : Reader (List Char)
  | [] => some ([], [])
  | c :: rest => if c = '.' then digits? rest else some ([], c :: rest)

/-- Digits after a sign, if there is one. -/
def signed? : Reader Int
  | [] => none
  | c :: rest =>
    if c = '-' then (digits? rest).map fun r => (-(digitsValue r.1 : Int), r.2)
    else if c = '+' then (digits? rest).map fun r => ((digitsValue r.1 : Int), r.2)
    else (digits? (c :: rest)).map fun r => ((digitsValue r.1 : Int), r.2)

/-- An exponent, or nothing. -/
def exponent? : Reader (Option Int)
  | [] => some (none, [])
  | c :: rest =>
    if c = 'e' ∨ c = 'E' then (signed? rest).map fun r => (some r.1, r.2)
    else some (none, c :: rest)

/-- A number in its parts. -/
structure Numeral where
  /-- The digits before the point. -/
  whole : List Char
  /-- The digits behind the point. -/
  fraction : List Char
  /-- The exponent, if there is one. -/
  exponent : Option Int

/-- The parts of a number without its sign. -/
def numeral? : Reader Numeral := fun input => do
  let (whole, rest) ← whole? input
  let (fraction, rest) ← fraction? rest
  let (exponent, rest) ← exponent? rest
  some (⟨whole, fraction, exponent⟩, rest)

/-- The power of ten of the last digit. -/
def Numeral.scale (n : Numeral) : Int := n.exponent.getD 0 - n.fraction.length

/-- All digits as one number. -/
def Numeral.digits (n : Numeral) : Nat := digitsValue (n.whole ++ n.fraction)

/-- **The number that the parts make**: an integer, or the decimal rounded once. -/
def Numeral.number? (negative : Bool) (n : Numeral) : Option Number :=
  if n.fraction = [] ∧ n.exponent = none then
    some (.integer (if negative then -(n.digits : Int) else n.digits))
  else
    (Magnitude.ofRatio? (n.digits * 10 ^ upward n.scale) (10 ^ downward n.scale)).map fun m =>
      .float ⟨negative, m⟩

/-- A number after its sign. -/
def unsigned? (negative : Bool) : Reader Number := fun input => do
  let (n, rest) ← numeral? input
  let x ← n.number? negative
  some (x, rest)

/-- **A number.** -/
def number? : Reader Number
  | [] => none
  | c :: rest => if c = '-' then unsigned? true rest else unsigned? false (c :: rest)

/-! ## §2. Digits. -/

/-- What follows does not begin with such a character. -/
def Ends (p : Char → Bool) (rest : List Char) : Prop := ∀ c ∈ rest.head?, p c = false

theorem ends_cons {p : Char → Bool} {c : Char} (h : p c = false) (rest : List Char) :
    Ends p (c :: rest) := by
  rintro d ⟨⟩
  exact h

theorem ends_append {p : Char → Bool} {cs rest : List Char} (first : Ends p cs)
    (later : cs = [] → Ends p rest) : Ends p (cs ++ rest) := by
  cases cs with
  | nil => exact later rfl
  | cons c cs => exact first

theorem digits?_append {ds rest : List Char} (some_digit : ds ≠ [])
    (digit : ∀ c ∈ ds, c.isDigit = true) (ends : Ends Char.isDigit rest) :
    digits? (ds ++ rest) = some (ds, rest) := by
  have stops : rest.takeWhile Char.isDigit = [] ∧ rest.dropWhile Char.isDigit = rest := by
    cases rest with
    | nil => exact ⟨rfl, rfl⟩
    | cons c rest =>
      have other : c.isDigit = false := ends c rfl
      exact ⟨List.takeWhile_cons_of_neg (by simp [other]),
        List.dropWhile_cons_of_neg (by simp [other])⟩
  unfold digits?
  rw [List.takeWhile_append_of_pos digit, List.dropWhile_append_of_pos digit, stops.1, stops.2,
    List.append_nil, if_neg some_digit]

theorem isDigit_decimal (n : Nat) : ∀ c ∈ Text.decimal n, c.isDigit = true :=
  fun _ h => Nat.isDigit_of_mem_toDigits (by decide) (by decide) h

theorem digitsValue_decimal (n : Nat) : digitsValue (Text.decimal n) = n :=
  Nat.ofDigitChars_ten_toDigits

theorem decimal_ne_nil (n : Nat) : Text.decimal n ≠ [] := Nat.toDigits_ne_nil

/-- A number that is not zero does not begin with a zero. -/
theorem head_decimal {n : Nat} (nonzero : n ≠ 0) : (Text.decimal n).head? ≠ some '0' := by
  have digit : ∀ d < 10, d ≠ 0 → d.digitChar ≠ '0' := by decide
  induction n using Nat.strongRecOn with
  | ind n ih =>
    by_cases small : n < 10
    · rw [Text.decimal, Nat.toDigits_of_lt_base small]
      exact fun same => digit n small nonzero (Option.some.inj same)
    · have more := ih (n / 10) (by omega) (by omega)
      rw [Text.decimal, Nat.toDigits_of_base_le (by decide) (by omega),
        List.head?_append_of_ne_nil _ Nat.toDigits_ne_nil]
      exact more

/-! ## §3. The parts of a number. -/

/-- **Parts as they may be written**: digits before the point, of which a zero stands alone, and
digits behind it. -/
structure Numeral.Legal (n : Numeral) : Prop where
  /-- There is something before the point. -/
  some_whole : n.whole ≠ []
  /-- It is made of digits. -/
  whole : ∀ c ∈ n.whole, c.isDigit = true
  /-- A zero stands alone. -/
  alone : n.whole.head? = some '0' → n.whole = ['0']
  /-- What is behind the point is made of digits. -/
  fraction : ∀ c ∈ n.fraction, c.isDigit = true

/-- The characters of an exponent. -/
def exponentChars : Option Int → List Char
  | none => []
  | some e => 'e' :: (if e < 0 then '-' else '+') :: Text.decimal e.natAbs

/-- The characters of a number without its sign. -/
def Numeral.chars (n : Numeral) : List Char :=
  n.whole ++ ((if n.fraction = [] then [] else '.' :: n.fraction) ++ exponentChars n.exponent)

/-- What continues a number. -/
def continues (c : Char) : Bool := c.isDigit || c == '.' || c == 'e' || c == 'E'

theorem Ends.weaken {p q : Char → Bool} {rest : List Char} (h : Ends p rest)
    (weaker : ∀ c, p c = false → q c = false) : Ends q rest :=
  fun c hc => weaker c (h c hc)

theorem ends_digit {rest : List Char} (h : Ends continues rest) : Ends Char.isDigit rest :=
  h.weaken fun c none => by
    simp only [continues, Bool.or_eq_false_iff] at none
    exact none.1.1.1

theorem signed?_append {e : Int} {rest : List Char} (ends : Ends Char.isDigit rest) :
    signed? ((if e < 0 then '-' else '+') :: Text.decimal e.natAbs ++ rest) = some (e, rest) := by
  have read := digits?_append (decimal_ne_nil e.natAbs) (isDigit_decimal _) ends
  unfold signed?
  by_cases negative : e < 0
  · rw [if_pos negative]
    simp only [List.cons_append, if_true, read, Option.map_some, digitsValue_decimal]
    rw [show -(e.natAbs : Int) = e by omega]
  · rw [if_neg negative]
    simp only [List.cons_append, if_true, read, Option.map_some, digitsValue_decimal,
      if_neg (show '+' ≠ '-' by decide)]
    rw [show (e.natAbs : Int) = e by omega]

theorem exponent?_append (e : Option Int) {rest : List Char} (ends : Ends continues rest) :
    exponent? (exponentChars e ++ rest) = some (e, rest) := by
  cases e with
  | some e =>
    have read := signed?_append (e := e) (ends_digit ends)
    rw [exponentChars, List.cons_append, exponent?, if_pos (Or.inl rfl), read]
    rfl
  | none =>
    cases rest with
    | nil => rfl
    | cons c rest =>
      have other := ends c rfl
      simp only [continues, Bool.or_eq_false_iff, beq_eq_false_iff_ne] at other
      rw [exponentChars, List.nil_append, exponent?, if_neg (not_or.mpr ⟨other.1.2, other.2⟩)]

theorem fraction?_append {ds rest : List Char} (digit : ∀ c ∈ ds, c.isDigit = true)
    (ends : Ends (fun c => c.isDigit || c == '.') rest) :
    fraction? ((if ds = [] then [] else '.' :: ds) ++ rest) = some (ds, rest) := by
  split_ifs with empty
  · rw [empty, List.nil_append]
    cases rest with
    | nil => rfl
    | cons c rest =>
      have other := ends c rfl
      simp only [Bool.or_eq_false_iff, beq_eq_false_iff_ne] at other
      rw [fraction?, if_neg other.2]
  · rw [List.cons_append, fraction?, if_pos rfl]
    refine digits?_append empty digit (ends.weaken fun c none => ?_)
    rw [Bool.or_eq_false_iff] at none
    exact none.1

/-- An exponent ends what stands before it. -/
theorem ends_exponentChars (e : Option Int) {rest : List Char} (ends : Ends continues rest) :
    Ends (fun c => c.isDigit || c == '.') (exponentChars e ++ rest) := by
  refine ends_append ?_ fun _ => ends.weaken fun c none => ?_
  · cases e with
    | none => nofun
    | some e => exact ends_cons (by decide) _
  · simp only [continues, Bool.or_eq_false_iff] at none ⊢
    exact none.1.1

/-- **The parts of a number come back from its text.** -/
theorem numeral?_chars {n : Numeral} (legal : n.Legal) {rest : List Char}
    (ends : Ends continues rest) : numeral? (n.chars ++ rest) = some (n, rest) := by
  have exponent := exponent?_append n.exponent ends
  have later := ends_exponentChars n.exponent ends
  have fraction := fraction?_append legal.fraction later
  have whole : whole? (n.whole ++ ((if n.fraction = [] then [] else '.' :: n.fraction) ++
      (exponentChars n.exponent ++ rest)))
      = some (n.whole, (if n.fraction = [] then [] else '.' :: n.fraction) ++
        (exponentChars n.exponent ++ rest)) := by
    have ended : Ends Char.isDigit ((if n.fraction = [] then [] else '.' :: n.fraction) ++
        (exponentChars n.exponent ++ rest)) := by
      refine ends_append ?_ fun _ => later.weaken fun c none => ?_
      · split_ifs
        · nofun
        · exact ends_cons (by decide) _
      · rw [Bool.or_eq_false_iff] at none
        exact none.1
    rw [whole?, digits?_append legal.some_whole legal.whole ended]
    show (if _ then _ else _) = _
    rw [if_neg (fun zero => zero.2 (legal.alone zero.1))]
  unfold numeral? Numeral.chars
  rw [List.append_assoc, List.append_assoc, whole]
  simp only [bind, Option.bind, fraction, exponent]

/-! ## §4. What the writer writes. -/

/-- The rational number that the parts make. -/
def Numeral.val (n : Numeral) : ℚ := n.digits * 10 ^ n.scale

/-- **Parts that are a decimal**: they may be written, make its value, and show that it is none of
the integers. -/
structure Numeral.Shows (n : Numeral) (r : ℚ) : Prop extends Numeral.Legal n where
  /-- They make its value. -/
  value : n.val = r
  /-- There is a point or an exponent. -/
  broken : ¬ (n.fraction = [] ∧ n.exponent = none)

theorem digitsValue_zeros (k : Nat) (ds : List Char) :
    digitsValue (List.replicate k '0' ++ ds) = digitsValue ds := by
  unfold digitsValue
  rw [Nat.ofDigitChars_append, Nat.ofDigitChars_replicate_zero, Nat.mul_zero]

theorem isDigit_zeros (k : Nat) : ∀ c ∈ List.replicate k '0', c.isDigit = true := by
  intro c h
  rw [List.eq_of_mem_replicate h]
  rfl

/-- Zero is written with a zero on either side of the point. -/
theorem shows_zero : Numeral.Shows ⟨['0'], ['0'], none⟩ 0 where
  some_whole := List.cons_ne_nil _ _
  whole := isDigit_zeros 1
  alone _ := rfl
  fraction := isDigit_zeros 1
  value := zero_mul _
  broken none := List.cons_ne_nil _ _ none.1

/-- One digit stands before the point, or alone, and there is an exponent. -/
theorem shows_exponent {c : Char} {rest : List Char} (digit : c.isDigit = true)
    (digits : ∀ d ∈ rest, d.isDigit = true) (nonzero : c ≠ '0') (order : Int) :
    Numeral.Shows ⟨[c], rest, some order⟩
      (digitsValue (c :: rest) * 10 ^ (order - (c :: rest).length + 1)) where
  some_whole := List.cons_ne_nil _ _
  whole d h := by
    rw [List.mem_singleton.mp h]
    exact digit
  alone zero := absurd (Option.some.inj zero) nonzero
  fraction := digits
  value := by
    show (digitsValue (c :: rest) : ℚ) * 10 ^ (order - rest.length) = _
    rw [List.length_cons]
    congr 2
    omega
  broken none := Option.some_ne_none _ none.2

section Layout

variable {ds : List Char} (some_digit : ds ≠ []) (digit : ∀ c ∈ ds, c.isDigit = true)
  (first : ds.head? ≠ some '0')

include some_digit digit in
/-- The point stands before all digits, and zeros between them. -/
theorem shows_below_one (zeros : Nat) :
    Numeral.Shows ⟨['0'], List.replicate zeros '0' ++ ds, none⟩
      (digitsValue ds * 10 ^ (-(zeros : Int) - ds.length)) where
  some_whole := List.cons_ne_nil _ _
  whole := isDigit_zeros 1
  alone _ := rfl
  fraction c h := (List.mem_append.mp h).elim (isDigit_zeros _ c) (digit c)
  value := by
    have value : digitsValue ('0' :: (List.replicate zeros '0' ++ ds)) = digitsValue ds :=
      digitsValue_zeros (zeros + 1) ds
    show (digitsValue ('0' :: (List.replicate zeros '0' ++ ds)) : ℚ)
      * 10 ^ ((0 : Int) - (List.replicate zeros '0' ++ ds).length) = _
    rw [value, List.length_append, List.length_replicate]
    congr 2
    omega
  broken none := List.append_ne_nil_of_right_ne_nil _ some_digit none.1

include some_digit digit first in
/-- The point stands behind all digits, and zeros between them. -/
theorem shows_whole (zeros : Nat) :
    Numeral.Shows ⟨ds ++ List.replicate zeros '0', ['0'], none⟩
      (digitsValue ds * 10 ^ (zeros : Int)) where
  some_whole := List.append_ne_nil_of_left_ne_nil some_digit _
  whole c h := (List.mem_append.mp h).elim (digit c) (isDigit_zeros _ c)
  alone zero := by
    rw [List.head?_append_of_ne_nil _ some_digit] at zero
    exact absurd zero first
  fraction := isDigit_zeros 1
  value := by
    have value : digitsValue (ds ++ List.replicate zeros '0' ++ ['0'])
        = 10 ^ (zeros + 1) * digitsValue ds := by
      rw [List.append_assoc, ← List.replicate_succ', digitsValue, Nat.ofDigitChars_append,
        Nat.ofDigitChars_replicate_zero]
    show (digitsValue (ds ++ List.replicate zeros '0' ++ ['0']) : ℚ) * 10 ^ (-1 : Int) = _
    rw [value, Nat.cast_mul, Nat.cast_pow, Nat.cast_ofNat, mul_right_comm, ← zpow_natCast,
      ← zpow_add₀ (by norm_num), mul_comm]
    congr 2
    omega
  broken none := List.cons_ne_nil _ _ none.1

include some_digit digit first in
/-- The point stands between digits. -/
theorem shows_between {places : Nat} (some_before : 0 < places) (some_behind : places < ds.length) :
    Numeral.Shows ⟨ds.take places, ds.drop places, none⟩
      (digitsValue ds * 10 ^ ((places : Int) - ds.length)) where
  some_whole none := by
    rcases List.take_eq_nil_iff.mp none with zero | empty
    · exact some_before.ne' zero
    · exact some_digit empty
  whole c h := digit c (List.mem_of_mem_take h)
  alone zero := by
    rw [List.head?_take, if_neg some_before.ne'] at zero
    exact absurd zero first
  fraction c h := digit c (List.mem_of_mem_drop h)
  value := by
    show (digitsValue (ds.take places ++ ds.drop places) : ℚ)
      * 10 ^ ((0 : Int) - (ds.drop places).length) = _
    rw [List.take_append_drop, List.length_drop]
    congr 2
    omega
  broken none := absurd (List.drop_eq_nil_iff.mp none.1) some_behind.not_ge

include some_digit digit first

/-- **Digits with a point** are a number whose last digit has the power of ten that the point
gives it. -/
theorem exists_positional (places : Int) : ∃ n : Numeral,
    n.chars = positional ds places ∧ n.Shows (digitsValue ds * 10 ^ (places - ds.length)) := by
  unfold positional
  -- the point stands before all digits, behind them or between them
  by_cases small : places ≤ 0
  · have scale : places - ds.length = -((-places).toNat : Int) - ds.length := by omega
    rw [if_pos small, scale]
    exact ⟨_, by simp [Numeral.chars, exponentChars, some_digit],
      shows_below_one some_digit digit (-places).toNat⟩
  rw [if_neg small]
  by_cases long : ds.length ≤ places.toNat
  · have scale : places - ds.length = ((places.toNat - ds.length : Nat) : Int) := by omega
    rw [if_pos long, scale]
    exact ⟨_, by simp [Numeral.chars, exponentChars],
      shows_whole some_digit digit first (places.toNat - ds.length)⟩
  · have scale : places - ds.length = (places.toNat : Int) - ds.length := by omega
    have behind : ds.drop places.toNat ≠ [] := mt List.drop_eq_nil_iff.mp long
    rw [if_neg long, scale]
    exact ⟨_, by simp only [Numeral.chars, exponentChars, if_neg behind, List.append_nil],
      shows_between some_digit digit first (by omega) (by omega)⟩

/-- **Digits with an exponent**: one before the point, if there are others. -/
theorem exists_scientific (order : Int) : ∃ n : Numeral,
    n.chars = scientific floatLayout ds order ∧
      n.Shows (digitsValue ds * 10 ^ (order - ds.length + 1)) := by
  cases ds with
  | nil => exact absurd rfl some_digit
  | cons c rest =>
    have sign : (if order < 0 then ['-'] else if floatLayout.plus = true then ['+'] else [])
        = [if order < 0 then '-' else '+'] := by
      rw [if_pos (show floatLayout.plus = true from rfl)]
      split_ifs <;> rfl
    refine ⟨_, ?_, shows_exponent (digit c List.mem_cons_self)
      (fun d h => digit d (List.mem_cons_of_mem c h)) (fun zero => first (congrArg some zero)) order⟩
    unfold scientific
    rw [sign]
    cases rest with
    | nil => rfl
    | cons d rest => simp [Numeral.chars, exponentChars, floatLayout]

end Layout

/-- **The text of a decimal is that of a number of the same value.** -/
theorem exists_numeral (d : Decimal) : ∃ n : Numeral,
    n.chars = floatLayout.write d ∧ n.Shows d.val := by
  unfold FloatLayout.write Decimal.val
  dsimp only
  by_cases zero : d.digits = 0
  · rw [if_pos zero, zero, Nat.cast_zero, zero_mul]
    exact ⟨_, rfl, shows_zero⟩
  · -- the layout decides where the point stands, and what it makes of the digits is the same
    rw [if_neg zero]
    have some_digit := decimal_ne_nil d.digits
    have digit := isDigit_decimal d.digits
    have first := head_decimal zero
    have value := digitsValue_decimal d.digits
    split_ifs
    · obtain ⟨n, chars, shows⟩ := exists_positional some_digit digit first
        ((Text.decimal d.digits).length - 1 + d.exponent + 1)
      rw [value] at shows
      refine ⟨n, chars, ?_⟩
      convert shows using 3
      omega
    · obtain ⟨n, chars, shows⟩ := exists_scientific some_digit digit first
        ((Text.decimal d.digits).length - 1 + d.exponent)
      rw [value] at shows
      refine ⟨n, chars, ?_⟩
      convert shows using 3
      omega

/-! ## §5. Numbers. -/

/-- A decimal that is shown for a magnitude is read as the magnitude. -/
theorem Numeral.number?_of_shows {x : Magnitude} (proper : x.Proper) {n : Numeral}
    (h : n.Shows x.shortest.val) (negative : Bool) :
    n.number? negative = some (.float ⟨negative, x⟩) := by
  have quotient : ((n.digits * 10 ^ upward n.scale : Nat) : ℚ) / (10 ^ downward n.scale : Nat)
      = x.shortest.val := by
    rw [← h.value, Numeral.val, ← upward_div_downward, Nat.cast_mul, Nat.cast_pow, Nat.cast_pow,
      Nat.cast_ofNat, mul_div_assoc]
  rw [Numeral.number?, if_neg h.broken, Magnitude.ofRatio?_shortest proper (by positivity) quotient]
  rfl

/-- A text of legal parts begins with a digit. -/
theorem Numeral.Legal.opens {n : Numeral} (legal : n.Legal) :
    ∃ c cs, n.chars = c :: cs ∧ c.isDigit = true := by
  cases shape : n.whole with
  | nil => exact absurd shape legal.some_whole
  | cons c ds =>
    rw [Numeral.chars, shape, List.cons_append]
    exact ⟨c, _, rfl, legal.whole c (shape ▸ List.mem_cons_self)⟩

/-- The number of legal parts is read from their text. -/
theorem unsigned?_chars {n : Numeral} (legal : n.Legal) {negative : Bool} {x : Number}
    (made : n.number? negative = some x) {rest : List Char} (ends : Ends continues rest) :
    unsigned? negative (n.chars ++ rest) = some (x, rest) := by
  unfold unsigned?
  rw [numeral?_chars legal ends]
  simp only [bind, Option.bind, made]

/-- The digits of a natural number are legal parts. -/
theorem legal_decimal (n : Nat) : Numeral.Legal ⟨Text.decimal n, [], none⟩ where
  some_whole := decimal_ne_nil n
  whole := isDigit_decimal n
  alone zero := by
    by_cases none : n = 0
    · rw [none]
      rfl
    · exact absurd zero (head_decimal none)
  fraction _ h := absurd h List.not_mem_nil

theorem chars_decimal (n : Nat) :
    Numeral.chars ⟨Text.decimal n, [], none⟩ = Text.decimal n := by
  simp [Numeral.chars, exponentChars]

/-- A sign is read, and then the number behind it. -/
theorem number?_signed {n : Numeral} (legal : n.Legal) {negative : Bool} {x : Number}
    (made : n.number? negative = some x) {rest : List Char} (ends : Ends continues rest) :
    number? ((if negative then '-' :: n.chars else n.chars) ++ rest) = some (x, rest) := by
  have read := unsigned?_chars legal made ends
  cases negative with
  | true => exact read
  | false =>
    obtain ⟨c, cs, shape, digit⟩ := legal.opens
    have unsigned : c ≠ '-' := by
      rintro rfl
      exact absurd digit (by decide)
    rw [shape, List.cons_append] at read
    rw [if_neg Bool.false_ne_true, shape, List.cons_append, number?, if_neg unsigned, read]

/-- **Every number is written as legal parts after its sign**, and they make the number if it is
one of the format. -/
theorem exists_signed (x : Number) : ∃ (negative : Bool) (n : Numeral), n.Legal ∧
    x.chars = (if negative then '-' :: n.chars else n.chars) ∧
    (x.Proper → n.number? negative = some x) := by
  cases x with
  | integer n =>
    refine ⟨decide (n < 0), ⟨Text.decimal n.natAbs, [], none⟩, legal_decimal _, ?_, fun _ => ?_⟩
    · simp only [decide_eq_true_eq, chars_decimal]
      rfl
    · rw [Numeral.number?, if_pos ⟨rfl, rfl⟩, Numeral.digits, List.append_nil, digitsValue_decimal]
      by_cases negative : n < 0
      · rw [if_pos (decide_eq_true negative), show -(n.natAbs : Int) = n by omega]
      · rw [if_neg (by simpa using negative), show (n.natAbs : Int) = n by omega]
  | float x =>
    obtain ⟨n, chars, shows⟩ := exists_numeral x.magnitude.shortest
    refine ⟨x.negative, n, shows.toLegal, ?_, fun proper => n.number?_of_shows proper shows _⟩
    rw [chars]
    rfl

/-- **A number is read back**, whatever ends it. -/
theorem number?_chars {x : Number} (proper : x.Proper) {rest : List Char}
    (ends : Ends continues rest) : number? (x.chars ++ rest) = some (x, rest) := by
  obtain ⟨negative, n, legal, shape, made⟩ := exists_signed x
  rw [shape]
  exact number?_signed legal (made proper) ends

/-- The text of a number begins with a sign or a digit. -/
theorem opens_chars (x : Number) : ∃ c cs, x.chars = c :: cs ∧ (c = '-' ∨ c.isDigit = true) := by
  obtain ⟨negative, n, legal, shape, -⟩ := exists_signed x
  obtain ⟨c, cs, opens, digit⟩ := legal.opens
  cases negative with
  | true => exact ⟨'-', n.chars, shape, .inl rfl⟩
  | false => exact ⟨c, cs, shape.trans opens, .inr digit⟩

end Json.Compact

end WorkloadIdentity
