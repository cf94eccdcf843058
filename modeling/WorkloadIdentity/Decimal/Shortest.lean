/-
  WorkloadIdentity.Decimal.Shortest ──── **THE FEWEST DIGITS THAT READ BACK.**

  A magnitude is shown by the shortest decimal that lies in the interval of reals that round to
  it.  **RULE**: for one digit, two digits, … the two neighbours of the value on that decimal grid
  are tried; the first grid with a hit wins, of two hits the nearer, and on a tie the even one.

  ✓ `Magnitude.shortest` — digits and exponent
  ✓ `FloatLayout`        — where positional notation ends and how an exponent is spelled
-/
import WorkloadIdentity.Decimal.Binary64
import WorkloadIdentity.Text.Digits

namespace WorkloadIdentity

/-! ## §1. The interval that rounds to a magnitude, in quarter units of its last place. -/

/-- The value in quarter units. -/
def Magnitude.quarters (x : Magnitude) : Nat := 4 * x.mantissa

/-- The lower end in quarter units; the gap is halved just above a power of two. -/
def Magnitude.lowerEnd (x : Magnitude) : Nat :=
  if x.mantissa = leastNormal ∧ -1074 < x.exponent then x.quarters - 1 else x.quarters - 2

/-- The upper end in quarter units. -/
def Magnitude.upperEnd (x : Magnitude) : Nat := x.quarters + 2

/-! ## §2. Decimal grids. -/

/-- A decimal `digits · 10^exponent`. -/
structure Decimal where
  /-- The digits, as a number. -/
  digits : Nat
  /-- The power of ten. -/
  exponent : Int

/-- Compare `a · 10^k` with `b · 2^p`. -/
def compareScaled (a : Nat) (k : Int) (b : Nat) (p : Int) : Ordering :=
  compare ((a * Nat.pow 10 (upward k)) <<< downward p) ((b * Nat.pow 10 (downward k)) <<< upward p)

/-- Whether a decimal rounds to the magnitude; the ends belong to it if its mantissa is even. -/
def Magnitude.admits (x : Magnitude) (d : Decimal) : Bool :=
  let p := x.exponent - 2
  let low := compareScaled d.digits d.exponent x.lowerEnd p
  let high := compareScaled d.digits d.exponent x.upperEnd p
  if x.mantissa % 2 = 0 then low != .lt && high != .gt else low == .gt && high == .lt

/-- The largest `e` with `10^e` at most the magnitude. -/
def Magnitude.decimalOrder (x : Magnitude) : Int :=
  match ((List.range 634).map fun (i : Nat) => (309 : Int) - i).find? fun e =>
      compareScaled 1 e x.quarters (x.exponent - 2) != .gt with
  | some e => e
  | none => -324

/-- The greatest point of the grid `10^k` that is at most the magnitude, counted in grid steps. -/
def Magnitude.floorOn (x : Magnitude) (k : Int) : Nat :=
  let p := x.exponent - 2
  ((x.quarters * Nat.pow 10 (downward k)) <<< upward p) / (Nat.pow 10 (upward k) <<< downward p)

/-- Which of two neighbours on a grid is nearer, a tie going to the even one. -/
def Magnitude.nearer (x : Magnitude) (k : Int) (d : Nat) : Nat :=
  -- the midpoint has the odd numerator `2 d + 1` over two grid steps
  match compareScaled (2 * d + 1) k (2 * x.quarters) (x.exponent - 2) with
  | .gt => d
  | .lt => d + 1
  | .eq => if d % 2 = 0 then d else d + 1

/-- The best point of the grid with `n` digits, if some point of it rounds to the magnitude. -/
def Magnitude.onGrid? (x : Magnitude) (n : Nat) : Option Decimal :=
  let k := x.decimalOrder - (n : Int) + 1
  let d := x.floorOn k
  match x.admits ⟨d, k⟩, x.admits ⟨d + 1, k⟩ with
  | true, true => some ⟨x.nearer k d, k⟩
  | true, false => some ⟨d, k⟩
  | false, true => some ⟨d + 1, k⟩
  | false, false => none

/-- Take factors of ten out of the digits. -/
def Decimal.trim : Nat → Decimal → Decimal
  | 0, d => d
  | fuel + 1, d =>
    if d.digits ≠ 0 ∧ d.digits % 10 = 0 then Decimal.trim fuel ⟨d.digits / 10, d.exponent + 1⟩ else d

/-- **The shortest decimal that rounds to a magnitude**; seventeen digits always suffice. -/
def Magnitude.shortest (x : Magnitude) : Decimal :=
  if x.mantissa = 0 then ⟨0, 0⟩
  else
    match (List.range 17).findSome? fun n => x.onGrid? (n + 1) with
    | some d => d.trim 20
    | none => ⟨x.floorOn (x.decimalOrder - 16), x.decimalOrder - 16⟩

/-! ## §3. Layout. -/

/-- How digits and an exponent are written. -/
structure FloatLayout where
  /-- The least exponent of the leading digit that is written positionally. -/
  least : Int
  /-- The exponent of the leading digit from which an exponent is written. -/
  bound : Int
  /-- The letter before the exponent. -/
  mark : Char
  /-- Whether a positive exponent has a plus sign. -/
  plus : Bool

/-- Digits with a point after the first `places` of them, filled up with zeros. -/
def positional (digits : List Char) (places : Int) : List Char :=
  if places ≤ 0 then '0' :: '.' :: List.replicate (-places).toNat '0' ++ digits
  else if digits.length ≤ places.toNat then
    digits ++ List.replicate (places.toNat - digits.length) '0' ++ ['.', '0']
  else digits.take places.toNat ++ '.' :: digits.drop places.toNat

/-- Digits in scientific notation; a single digit has no point. -/
def scientific (l : FloatLayout) (digits : List Char) (exponent : Int) : List Char :=
  let whole := match digits with
    | [] => []
    | [c] => [c]
    | c :: rest => c :: '.' :: rest
  let sign := if exponent < 0 then ['-'] else if l.plus then ['+'] else []
  whole ++ l.mark :: sign ++ Text.decimal exponent.natAbs

/-- A decimal in a layout. -/
def FloatLayout.write (l : FloatLayout) (d : Decimal) : List Char :=
  let digits := Text.decimal d.digits
  let order : Int := (digits.length : Int) - 1 + d.exponent
  if d.digits = 0 then ['0', '.', '0']
  else if l.least ≤ order ∧ order < l.bound then positional digits (order + 1)
  else scientific l digits order

/-- A floating point number in a layout; zero keeps its sign. -/
def FloatLayout.writeFloat (l : FloatLayout) (x : Binary64) : List Char :=
  if x.negative then '-' :: l.write x.magnitude.shortest else l.write x.magnitude.shortest

end WorkloadIdentity
