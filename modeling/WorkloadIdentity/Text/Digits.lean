/-
  WorkloadIdentity.Text.Digits ──── **DIGITS IN BASES TEN AND SIXTEEN.**

  ✓ `Text.hexDigit`, `Text.hexDigitUpper` — the character of a value below sixteen
  ✓ `Text.hexValue?`, `Text.digitValue?`  — the value of a digit byte
  ✓ `Text.decimal`, `Text.hexadecimal`    — the shortest digits of a natural number
-/

namespace WorkloadIdentity.Text

/-! ## §1. One digit. -/

/-- The digit of a value below sixteen, letters in lower case. -/
def hexDigit (n : Nat) : Char :=
  if n < 10 then Char.ofNat (48 + n) else Char.ofNat (87 + n)

/-- The digit of a value below sixteen, letters in upper case. -/
def hexDigitUpper (n : Nat) : Char :=
  if n < 10 then Char.ofNat (48 + n) else Char.ofNat (55 + n)

/-- The value of a decimal digit. -/
def digitValue? (b : UInt8) : Option Nat :=
  if 48 ≤ b.toNat ∧ b.toNat ≤ 57 then some (b.toNat - 48) else none

/-- The value of a hexadecimal digit in either case. -/
def hexValue? (b : UInt8) : Option Nat :=
  if 48 ≤ b.toNat ∧ b.toNat ≤ 57 then some (b.toNat - 48)
  else if 65 ≤ b.toNat ∧ b.toNat ≤ 70 then some (b.toNat - 55)
  else if 97 ≤ b.toNat ∧ b.toNat ≤ 102 then some (b.toNat - 87)
  else none

/-- Whether a byte is a decimal digit. -/
def isDigit (b : UInt8) : Bool := (digitValue? b).isSome

/-! ## §2. Numbers. -/

/-- The decimal digits of a natural number. -/
def decimal (n : Nat) : List Char := Nat.toDigits 10 n

/-- The hexadecimal digits of a natural number, letters in lower case. -/
def hexadecimal (n : Nat) : List Char := Nat.toDigits 16 n

/-- The decimal digits of an integer, after a minus sign if it is negative. -/
def signedDecimal (n : Int) : List Char :=
  if n < 0 then '-' :: decimal n.natAbs else decimal n.natAbs

end WorkloadIdentity.Text
