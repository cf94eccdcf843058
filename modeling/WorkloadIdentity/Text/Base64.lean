/-
  WorkloadIdentity.Text.Base64 ──── **BASE 64 WITH PADDING.**

  Three bytes become four letters of the standard alphabet; a last group of one or two bytes is
  filled up with equals signs.  Reading takes exactly the groups that writing makes.

  ✓ `Base64.encode`  — bytes to letters
  ✓ `Base64.decode?` — letters to bytes
-/

namespace WorkloadIdentity.Base64

/-! ## §1. The alphabet. -/

/-- The letter of a value below sixty-four. -/
def letter (n : Nat) : Char :=
  if n < 26 then Char.ofNat (65 + n)
  else if n < 52 then Char.ofNat (71 + n)
  else if n < 62 then Char.ofNat (n - 4)
  else if n = 62 then '+'
  else '/'

/-- The value of a letter. -/
def value? (c : Char) : Option Nat :=
  if 65 ≤ c.toNat ∧ c.toNat ≤ 90 then some (c.toNat - 65)
  else if 97 ≤ c.toNat ∧ c.toNat ≤ 122 then some (c.toNat - 71)
  else if 48 ≤ c.toNat ∧ c.toNat ≤ 57 then some (c.toNat + 4)
  else if c = '+' then some 62
  else if c = '/' then some 63
  else none

/-! ## §2. Writing. -/

/-- **The letters of a byte list.** -/
def encode : List UInt8 → List Char
  | [] => []
  | [a] => [letter (a.toNat / 4), letter (a.toNat % 4 * 16), '=', '=']
  | [a, b] =>
    [letter (a.toNat / 4), letter (a.toNat % 4 * 16 + b.toNat / 16),
      letter (b.toNat % 16 * 4), '=']
  | a :: b :: c :: rest =>
    letter (a.toNat / 4) :: letter (a.toNat % 4 * 16 + b.toNat / 16) ::
      letter (b.toNat % 16 * 4 + c.toNat / 64) :: letter (c.toNat % 64) :: encode rest

/-! ## §3. Reading. -/

/-- The bytes of a last group that ends in two equals signs; the unused bits must be zero. -/
def decodeOne? (w x : Char) : Option (List UInt8) := do
  let w ← value? w
  let x ← value? x
  if x % 16 = 0 then some [UInt8.ofNat (w * 4 + x / 16)] else none

/-- The bytes of a last group that ends in one equals sign; the unused bits must be zero. -/
def decodeTwo? (w x y : Char) : Option (List UInt8) := do
  let w ← value? w
  let x ← value? x
  let y ← value? y
  if y % 4 = 0 then
    some [UInt8.ofNat (w * 4 + x / 16), UInt8.ofNat (x % 16 * 16 + y / 4)]
  else none

/-- The bytes of a full group. -/
def decodeThree? (w x y z : Char) : Option (List UInt8) := do
  let w ← value? w
  let x ← value? x
  let y ← value? y
  let z ← value? z
  some [UInt8.ofNat (w * 4 + x / 16), UInt8.ofNat (x % 16 * 16 + y / 4),
    UInt8.ofNat (y % 4 * 64 + z)]

/-- **The bytes of a list of letters**, if writing some bytes gives exactly that list. -/
def decode? : List Char → Option (List UInt8)
  | [] => some []
  | w :: x :: y :: z :: rest =>
    if z = '=' then
      if rest = [] then if y = '=' then decodeOne? w x else decodeTwo? w x y else none
    else do
      let group ← decodeThree? w x y z
      let others ← decode? rest
      some (group ++ others)
  | _ => none

end WorkloadIdentity.Base64
