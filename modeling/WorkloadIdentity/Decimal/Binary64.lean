/-
  WorkloadIdentity.Decimal.Binary64 ──── **BINARY FLOATING POINT IN EXACT ARITHMETIC.**

  A finite magnitude is `mantissa · 2^exponent` with a mantissa below 2^53.  **RULE**: every
  operation forms the exact quotient of two natural numbers and rounds it once, to the nearest
  magnitude and on a tie to the even mantissa.

  ✓ `Magnitude.ofRatio?`  — the one rounding step; `none` is overflow
  ✓ `Magnitude.mul?`, `Magnitude.div?`, `Magnitude.ofNat?` — through it
-/

namespace WorkloadIdentity

/-! ## §1. Magnitudes. -/

/-- The finite magnitude `mantissa · 2^exponent`. -/
structure Magnitude where
  /-- Below 2^53. -/
  mantissa : Nat
  /-- At least -1074, and equal to it if the mantissa is below 2^52. -/
  exponent : Int
  deriving DecidableEq

/-- The least mantissa of a magnitude that is not subnormal, 2^52. -/
def leastNormal : Nat := 4503599627370496

/-- Zero. -/
def Magnitude.zero : Magnitude := ⟨0, -1074⟩

/-- A finite floating point number: a sign and a magnitude.  Zero has both signs. -/
structure Binary64 where
  /-- Whether the sign is minus. -/
  negative : Bool
  /-- The size. -/
  magnitude : Magnitude
  deriving DecidableEq

/-! ## §2. Rounding. -/

/-- The quotient rounded to the nearest natural number, a tie going to the even one. -/
def roundHalfEven (num den : Nat) : Nat :=
  let q := num / den
  let r := num % den
  if 2 * r < den then q
  else if den < 2 * r then q + 1
  else if q % 2 = 0 then q else q + 1

/-- The part of an integer above zero. -/
def upward (e : Int) : Nat := e.toNat

/-- The part of an integer below zero, as a natural number. -/
def downward (e : Int) : Nat := (-e).toNat

/-- The largest `e` with `2^e ≤ num / den`, for positive numbers. -/
def binaryOrder (num den : Nat) : Int :=
  let e : Int := (Nat.log2 num : Int) - Nat.log2 den
  if num <<< downward e < den <<< upward e then e - 1 else e

/-- **The magnitude nearest to `num / den`**, unless that is too large. -/
def Magnitude.ofRatio? (num den : Nat) : Option Magnitude :=
  if num = 0 then some Magnitude.zero
  else
    let q := max (binaryOrder num den - 52) (-1074)
    let m := roundHalfEven (num <<< downward q) (den <<< upward q)
    let carried : Magnitude := if m = 2 * leastNormal then ⟨leastNormal, q + 1⟩ else ⟨m, q⟩
    if 971 < carried.exponent then none else some carried

/-! ## §3. Arithmetic. -/

/-- The magnitude nearest to a natural number. -/
def Magnitude.ofNat? (n : Nat) : Option Magnitude := Magnitude.ofRatio? n 1

/-- The rounded product. -/
def Magnitude.mul? (a b : Magnitude) : Option Magnitude :=
  let e := a.exponent + b.exponent
  Magnitude.ofRatio? ((a.mantissa * b.mantissa) <<< upward e) (1 <<< downward e)

/-- The rounded quotient; a divisor of zero counts as overflow. -/
def Magnitude.div? (a b : Magnitude) : Option Magnitude :=
  if b.mantissa = 0 then none
  else
    let e := a.exponent - b.exponent
    Magnitude.ofRatio? (a.mantissa <<< upward e) (b.mantissa <<< downward e)

/-- The magnitude nearest to a power of ten. -/
def Magnitude.tenPow? (k : Nat) : Option Magnitude := Magnitude.ofNat? (Nat.pow 10 k)

/-! ## §4. Decimal scaling. -/

/-- **A natural number times a power of ten**, in floating point steps: the number is rounded,
then multiplied or divided by the rounded power.  A power below 10^-308 is taken in several
divisions.  `none` is overflow.  The fuel bounds the number of divisions by 10^308. -/
def Magnitude.scale? : Nat → Magnitude → Int → Option Magnitude
  | 0, f, _ => some f
  | fuel + 1, f, e =>
    if e.natAbs ≤ 308 then do
      let p ← Magnitude.tenPow? e.natAbs
      if 0 ≤ e then f.mul? p else f.div? p
    else if f.mantissa = 0 then some f
    else if 0 ≤ e then none
    else do
      let p ← Magnitude.tenPow? 308
      let g ← f.div? p
      Magnitude.scale? fuel g (e + 308)

/-- The magnitude of `digits · 10^exponent`. -/
def Magnitude.ofDecimal? (digits : Nat) (exponent : Int) : Option Magnitude := do
  let f ← Magnitude.ofNat? digits
  Magnitude.scale? (exponent.natAbs / 308 + 2) f exponent

end WorkloadIdentity
