/-
  WorkloadIdentity.Proofs.Text.Base64RoundTrip ──── **WHAT IS WRITTEN IN BASE 64 IS READ BACK.**

  Each letter stands for six bits, and the reader joins what the writer has split: three bytes from
  four letters, and from the last group the bytes that were there, for the letters that fill it up
  carry none.

  Main results:
    * `Base64.value?_letter`  — a letter has the value that it was written for
    * `Base64.decode?_encode` — the bytes come back
-/
import Mathlib.Tactic.IntervalCases
import WorkloadIdentity.Text.Base64

namespace WorkloadIdentity.Base64

/-! ## §1. Letters. -/

theorem value?_letter {n : Nat} (h : n < 64) : value? (letter n) = some n := by
  interval_cases n <;> decide

/-- No letter fills a group up. -/
theorem letter_ne_filler {n : Nat} (h : n < 64) : letter n ≠ '=' := by
  interval_cases n <;> decide

/-- A byte comes back from its number. -/
theorem ofNat_of_eq {n : Nat} {b : UInt8} (h : n = b.toNat) : UInt8.ofNat n = b := by
  rw [h, UInt8.ofNat_toNat]

/-! ## §2. Groups. -/

/-- A last group of one byte: the four bits that nobody needs are zero. -/
theorem decodeOne?_letters (a : UInt8) :
    decodeOne? (letter (a.toNat / 4)) (letter (a.toNat % 4 * 16)) = some [a] := by
  have bound := a.toNat_lt
  have joined : UInt8.ofNat (a.toNat / 4 * 4 + a.toNat % 4 * 16 / 16) = a :=
    ofNat_of_eq (by omega)
  have unused : a.toNat % 4 * 16 % 16 = 0 := by omega
  unfold decodeOne?
  rw [value?_letter (by omega), value?_letter (by omega)]
  show (if a.toNat % 4 * 16 % 16 = 0 then some [UInt8.ofNat _] else none) = _
  rw [if_pos unused, joined]

/-- A last group of two bytes: so are the two bits here. -/
theorem decodeTwo?_letters (a b : UInt8) :
    decodeTwo? (letter (a.toNat / 4)) (letter (a.toNat % 4 * 16 + b.toNat / 16))
      (letter (b.toNat % 16 * 4)) = some [a, b] := by
  have ha := a.toNat_lt
  have hb := b.toNat_lt
  have first : UInt8.ofNat (a.toNat / 4 * 4 + (a.toNat % 4 * 16 + b.toNat / 16) / 16) = a :=
    ofNat_of_eq (by omega)
  have second :
      UInt8.ofNat ((a.toNat % 4 * 16 + b.toNat / 16) % 16 * 16 + b.toNat % 16 * 4 / 4) = b :=
    ofNat_of_eq (by omega)
  have unused : b.toNat % 16 * 4 % 4 = 0 := by omega
  unfold decodeTwo?
  rw [value?_letter (by omega), value?_letter (by omega), value?_letter (by omega)]
  show (if b.toNat % 16 * 4 % 4 = 0 then some [UInt8.ofNat _, UInt8.ofNat _] else none) = _
  rw [if_pos unused, first, second]

/-- A full group. -/
theorem decodeThree?_letters (a b c : UInt8) :
    decodeThree? (letter (a.toNat / 4)) (letter (a.toNat % 4 * 16 + b.toNat / 16))
      (letter (b.toNat % 16 * 4 + c.toNat / 64)) (letter (c.toNat % 64)) = some [a, b, c] := by
  have ha := a.toNat_lt
  have hb := b.toNat_lt
  have hc := c.toNat_lt
  have first : UInt8.ofNat (a.toNat / 4 * 4 + (a.toNat % 4 * 16 + b.toNat / 16) / 16) = a :=
    ofNat_of_eq (by omega)
  have second : UInt8.ofNat ((a.toNat % 4 * 16 + b.toNat / 16) % 16 * 16 +
      (b.toNat % 16 * 4 + c.toNat / 64) / 4) = b := ofNat_of_eq (by omega)
  have third : UInt8.ofNat ((b.toNat % 16 * 4 + c.toNat / 64) % 4 * 64 + c.toNat % 64) = c :=
    ofNat_of_eq (by omega)
  unfold decodeThree?
  rw [value?_letter (by omega), value?_letter (by omega), value?_letter (by omega),
    value?_letter (by omega)]
  show some [UInt8.ofNat _, UInt8.ofNat _, UInt8.ofNat _] = _
  rw [first, second, third]

/-! ## §3. All groups. -/

/-- **The bytes come back.** -/
theorem decode?_encode (bytes : List UInt8) : decode? (encode bytes) = some bytes := by
  -- the cases are those of the writer: the last group may be short
  induction bytes using encode.induct with
  | case1 => rfl
  | case2 a => exact decodeOne?_letters a
  | case3 a b =>
    have hb := b.toNat_lt
    have last : letter (b.toNat % 16 * 4) ≠ '=' := letter_ne_filler (by omega)
    rw [encode, decode?, if_pos rfl, if_pos rfl, if_neg last]
    exact decodeTwo?_letters a b
  | case4 a b c rest ih =>
    have hc := c.toNat_lt
    have last : letter (c.toNat % 64) ≠ '=' := letter_ne_filler (by omega)
    rw [encode, decode?, if_neg last, decodeThree?_letters, ih]
    rfl

end WorkloadIdentity.Base64
