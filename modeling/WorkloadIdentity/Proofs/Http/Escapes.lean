/-
  WorkloadIdentity.Proofs.Http.Escapes ──── **WHAT A SEGMENT STANDS FOR.**

  Characters that may not stand in a segment are percent-encoded, and escapes that are already there
  are left alone.  So what a segment stands for once its escapes are resolved is what the text stood
  for from which it was made, its own escapes included.

  The two ways to write characters, as they are and percent-encoded, agree in what matters to a
  reader of escapes: a percent sign and a digit are one byte, and nothing else begins with a digit.

  Main results:
    * `Writing.decode_eq`                — all such ways to write a text stand for the same
    * `percentDecode_flatMap_percentEncode` — so a segment stands for what its text stands for
    * `Plain.plainDots`                  — without escapes, dots are dots
-/
import WorkloadIdentity.Http.Url
import WorkloadIdentity.Proofs.Http.FormRoundTrip

namespace WorkloadIdentity.Host

open Text (hexValue? hexDigitUpper)
open Utf8 (encodeChars utf8EncodeChar_ascii high_of_mem_utf8EncodeChar toNat_byte)

/-! ## §1. Escapes. -/

/-- The byte that two digits stand for at the front, and what follows them. -/
def digits? : List UInt8 → Option (UInt8 × List UInt8)
  | a :: b :: rest =>
    match hexValue? a, hexValue? b with
    | some x, some y => some (UInt8.ofNat (x * 16 + y), rest)
    | _, _ => none
  | _ => none

/-- A byte that is no percent sign stands for itself. -/
theorem percentDecode_cons {b : UInt8} (other : b ≠ 37) (rest : List UInt8) :
    percentDecode (b :: rest) = b :: percentDecode rest := by
  conv_lhs => unfold percentDecode
  split
  · rename_i same
    exact absurd (List.cons.inj same).1 other
  · rename_i same
    obtain ⟨rfl, rfl⟩ := List.cons.inj same
    rfl
  · rename_i same
    cases same

/-- After a percent sign it depends on what follows. -/
theorem percentDecode_percent (rest : List UInt8) :
    percentDecode (37 :: rest) =
      match digits? rest with
      | some (b, after) => b :: percentDecode after
      | none => 37 :: percentDecode rest := by
  match rest with
  | [] | [_] => rfl
  | a :: b :: rest =>
    rw [percentDecode]
    dsimp only [digits?]
    cases hexValue? a <;> cases hexValue? b <;> rfl

theorem percentDecode_append {bytes : List UInt8} (other : 37 ∉ bytes) (rest : List UInt8) :
    percentDecode (bytes ++ rest) = bytes ++ percentDecode rest := by
  induction bytes with
  | nil => rfl
  | cons b bytes ih =>
    rw [List.mem_cons, not_or] at other
    rw [List.cons_append, percentDecode_cons (Ne.symm other.1), ih other.2, List.cons_append]

/-- Nothing gets longer. -/
theorem length_percentDecode_le (bytes : List UInt8) :
    (percentDecode bytes).length ≤ bytes.length := by
  fun_induction percentDecode bytes with
  | case1 a b rest x y _ _ ih =>
    simp only [List.length_cons]
    omega
  | case2 a b rest _ ih => exact Nat.succ_le_succ ih
  | case3 b rest _ ih => exact Nat.succ_le_succ ih
  | case4 => exact Nat.le_refl _

/-! ## §2. Characters. -/

theorem hexValue?_lt {b : UInt8} {n : Nat} (h : hexValue? b = some n) : n < 16 := by
  unfold hexValue? at h
  split at h
  · cases h
    omega
  · split at h
    · cases h
      omega
    · split at h
      · cases h
        omega
      · cases h

/-- A digit is an ASCII character, and its byte is the digit. -/
theorem digitIn?_eq_some_iff {c : Char} {n : Nat} :
    digitIn? 16 c = some n ↔ c.toNat < 128 ∧ hexValue? (UInt8.ofNat c.toNat) = some n := by
  unfold digitIn?
  split
  · rename_i ascii
    cases value : hexValue? (UInt8.ofNat c.toNat) with
    | none => simp
    | some m =>
      have small := hexValue?_lt value
      simp [ascii, small]
  · rename_i other
    simp [other]

theorem hexValue?_high {b : UInt8} (high : 128 ≤ b.toNat) : hexValue? b = none := by
  unfold hexValue?
  rw [if_neg (by omega), if_neg (by omega), if_neg (by omega)]

/-- The byte that two digits stand for at the front of characters, and what follows them. -/
def digitChars? : List Char → Option (UInt8 × List Char)
  | a :: b :: rest =>
    match digitIn? 16 a, digitIn? 16 b with
    | some x, some y => some (UInt8.ofNat (x * 16 + y), rest)
    | _, _ => none
  | _ => none

theorem eq_of_digitChars? {cs after : List Char} {b : UInt8}
    (found : digitChars? cs = some (b, after)) : ∃ x y, cs = x :: y :: after := by
  unfold digitChars? at found
  split at found
  · split at found
    · cases found
      exact ⟨_, _, rfl⟩
    · cases found
  · cases found

/-- **A way to write characters as bytes** that a reader of escapes sees through. -/
structure Writing (f : Char → List UInt8) : Prop where
  /-- A percent sign is one. -/
  percent : f '%' = [37]
  /-- A digit is one. -/
  digit : ∀ c n, digitIn? 16 c = some n → f c = [UInt8.ofNat c.toNat]
  /-- Nothing else begins with one. -/
  other : ∀ c, digitIn? 16 c = none → ∃ b rest, f c = b :: rest ∧ hexValue? b = none
  /-- Whatever is no percent sign stands for itself. -/
  plain : ∀ c, c ≠ '%' → ∀ rest,
    percentDecode (f c ++ rest) = String.utf8EncodeChar c ++ percentDecode rest

namespace Writing

variable {f g : Char → List UInt8}

/-- Digits are found where they have been written, and nowhere else. -/
theorem digits?_eq (writing : Writing f) (cs : List Char) :
    digits? (cs.flatMap f) = (digitChars? cs).map fun p => (p.1, p.2.flatMap f) := by
  -- what begins with no digit has no two of them
  have none (bytes : List UInt8) {b : UInt8} (no : hexValue? b = none) :
      digits? (b :: bytes) = none := by
    cases bytes <;> simp [digits?, no]
  have second (bytes : List UInt8) (a : UInt8) {b : UInt8} (no : hexValue? b = Option.none) :
      digits? (a :: b :: bytes) = Option.none := by
    cases value : hexValue? a <;> simp [digits?, no]
  match cs with
  | [] => rfl
  | a :: cs =>
    cases first : digitIn? 16 a with
    | none =>
      obtain ⟨b, rest, wrote, no⟩ := writing.other a first
      rw [List.flatMap_cons, wrote, List.cons_append, none _ no]
      cases cs <;> simp [digitChars?, first]
    | some x =>
      rw [List.flatMap_cons, writing.digit a x first, List.singleton_append]
      match cs with
      | [] => rfl
      | b :: cs =>
        cases next : digitIn? 16 b with
        | none =>
          obtain ⟨b', rest, wrote, no⟩ := writing.other b next
          rw [List.flatMap_cons, wrote, List.cons_append, second _ _ no]
          simp [digitChars?, first, next]
        | some y =>
          rw [List.flatMap_cons, writing.digit b y next, List.singleton_append]
          simp [digits?, digitChars?, first, next, (digitIn?_eq_some_iff.mp first).2,
            (digitIn?_eq_some_iff.mp next).2]

/-- **All such ways to write a text stand for the same.** -/
theorem decode_eq (left : Writing f) (right : Writing g) (cs : List Char) :
    percentDecode (cs.flatMap f) = percentDecode (cs.flatMap g) := by
  -- an escape takes three characters at once, so the induction is on the length
  induction size : cs.length using Nat.strong_induction_on generalizing cs with
  | h size ih =>
    subst size
    cases cs with
    | nil => rfl
    | cons c cs =>
      rw [List.flatMap_cons, List.flatMap_cons]
      by_cases percent : c = '%'
      · subst percent
        rw [left.percent, right.percent, List.singleton_append, List.singleton_append,
          percentDecode_percent, percentDecode_percent, left.digits?_eq, right.digits?_eq]
        cases found : digitChars? cs with
        | none =>
          have rest := ih cs.length (Nat.lt_succ_self _) cs rfl
          simp [rest]
        | some escape =>
          obtain ⟨x, y, rfl⟩ := eq_of_digitChars? found
          have rest := ih escape.2.length (by simp only [List.length_cons]; omega) escape.2 rfl
          simp [rest]
      · rw [left.plain c percent, right.plain c percent,
          ih cs.length (Nat.lt_succ_self _) cs rfl]

end Writing

theorem percent_not_mem {c : Char} (other : c ≠ '%') : 37 ∉ String.utf8EncodeChar c := by
  intro member
  by_cases ascii : c.toNat < 128
  · rw [utf8EncodeChar_ascii ascii, List.mem_singleton] at member
    have code := congrArg UInt8.toNat member
    rw [toNat_byte (by omega)] at code
    exact other (Char.toNat_inj.mp code.symm)
  · have high := high_of_mem_utf8EncodeChar (Nat.le_of_not_lt ascii) member
    exact absurd high (by decide)

/-- Characters may be written as they are. -/
theorem writing_utf8 : Writing String.utf8EncodeChar where
  percent := by decide
  digit c n found := utf8EncodeChar_ascii (digitIn?_eq_some_iff.mp found).1
  other c none := by
    obtain ⟨b, rest, bytes⟩ := List.exists_cons_of_ne_nil (String.utf8EncodeChar_ne_nil (c := c))
    refine ⟨b, rest, bytes, ?_⟩
    by_cases ascii : c.toNat < 128
    · rw [utf8EncodeChar_ascii ascii] at bytes
      cases bytes
      refine Option.eq_none_iff_forall_ne_some.mpr fun n found => ?_
      rw [digitIn?_eq_some_iff.mpr ⟨ascii, found⟩] at none
      cases none
    · refine hexValue?_high (high_of_mem_utf8EncodeChar (Nat.le_of_not_lt ascii) ?_)
      rw [bytes]
      exact List.mem_cons_self
  plain c other rest := percentDecode_append (percent_not_mem other) rest

/-! ## §3. Percent encoding. -/

theorem encodeChars_percentByte (b : UInt8) : encodeChars (percentByte b) = Form.percent b := by
  have ascii {n : Nat} (h : n < 16) : (hexDigitUpper n).toNat < 128 := by
    interval_cases n <;> decide
  have bound := b.toNat_lt
  have high := utf8EncodeChar_ascii (ascii (n := b.toNat / 16) (by omega))
  have low := utf8EncodeChar_ascii (ascii (n := b.toNat % 16) (by omega))
  have sign : String.utf8EncodeChar '%' = [37] := by decide
  simp only [percentByte, encodeChars, List.flatMap_cons, List.flatMap_nil, high, low, sign]
  rfl

/-- A written byte stands for the byte. -/
theorem percentDecode_percentByte (b : UInt8) (rest : List UInt8) :
    percentDecode (encodeChars (percentByte b) ++ rest) = b :: percentDecode rest := by
  have bound := b.toNat_lt
  have high := Form.hexValue?_upper (n := b.toNat / 16) (by omega)
  have low := Form.hexValue?_upper (n := b.toNat % 16) (by omega)
  have joined : UInt8.ofNat (b.toNat / 16 * 16 + b.toNat % 16) = b := by
    rw [Nat.div_add_mod', UInt8.ofNat_toNat]
  rw [encodeChars_percentByte]
  simp only [Form.percent, List.cons_append, List.nil_append, percentDecode_percent, digits?, high,
    low, joined]

theorem percentDecode_percentBytes (bytes rest : List UInt8) :
    percentDecode (encodeChars (bytes.flatMap percentByte) ++ rest)
      = bytes ++ percentDecode rest := by
  induction bytes with
  | nil => rfl
  | cons b bytes ih =>
    rw [List.flatMap_cons, Utf8.encodeChars_append, List.append_assoc, percentDecode_percentByte,
      ih, List.cons_append]

/-- Neither a percent sign nor a digit is encoded in a path. -/
theorem percentEncode_digit {c : Char} (exempt : c = '%' ∨ ∃ n, digitIn? 16 c = some n) :
    percentEncode Url.inPath c = [c] := by
  have ascii : ∀ n < 128, Char.ofNat n = '%' ∨ digitIn? 16 (Char.ofNat n) ≠ none →
      percentEncode Url.inPath (Char.ofNat n) = [Char.ofNat n] := by decide
  have small : c.toNat < 128 := by
    rcases exempt with rfl | ⟨n, digit⟩
    · decide
    · exact (digitIn?_eq_some_iff.mp digit).1
  have kept := ascii c.toNat small
  rw [Char.ofNat_toNat] at kept
  refine kept (exempt.imp_right ?_)
  rintro ⟨n, digit⟩ none
  rw [digit] at none
  cases none

/-- Characters may also be percent-encoded. -/
theorem writing_percentEncode :
    Writing fun c => encodeChars (percentEncode Url.inPath c) where
  percent := by decide
  digit c n found := by
    rw [percentEncode_digit (.inr ⟨n, found⟩)]
    show String.utf8EncodeChar c ++ [] = _
    rw [List.append_nil]
    exact writing_utf8.digit c n found
  other c none := by
    unfold percentEncode
    split
    · -- what is encoded begins with a percent sign
      obtain ⟨b, rest, bytes⟩ := List.exists_cons_of_ne_nil (String.utf8EncodeChar_ne_nil (c := c))
      rw [bytes, List.flatMap_cons, Utf8.encodeChars_append, encodeChars_percentByte]
      exact ⟨37, _, rfl, by decide⟩
    · obtain ⟨b, rest, bytes, no⟩ := writing_utf8.other c none
      refine ⟨b, rest, ?_, no⟩
      show String.utf8EncodeChar c ++ [] = _
      rw [List.append_nil, bytes]
  plain c other rest := by
    unfold percentEncode
    split
    · exact percentDecode_percentBytes _ rest
    · show percentDecode ((String.utf8EncodeChar c ++ []) ++ rest) = _
      rw [List.append_nil]
      exact writing_utf8.plain c other rest

/-- **A segment stands for what its text stands for.** -/
theorem percentDecode_flatMap_percentEncode (cs : List Char) :
    percentDecode (encodeChars (cs.flatMap (percentEncode Url.inPath)))
      = percentDecode (encodeChars cs) := by
  have bytes : encodeChars (cs.flatMap (percentEncode Url.inPath))
      = cs.flatMap fun c => encodeChars (percentEncode Url.inPath c) := List.flatMap_assoc
  rw [bytes]
  exact writing_percentEncode.decode_eq writing_utf8 cs

/-! ## §4. Texts without escapes. -/

/-- A text without escapes stands for itself. -/
def Plain (cs : List Char) : Prop := percentDecode (encodeChars cs) = encodeChars cs

/-- No two digits follow a percent sign. -/
theorem Plain.digitChars?_eq {cs : List Char} (plain : Plain ('%' :: cs)) :
    digitChars? cs = none := by
  refine Option.eq_none_iff_forall_ne_some.mpr fun p found => ?_
  have same : percentDecode (37 :: encodeChars cs) = 37 :: encodeChars cs := plain
  have read : digits? (encodeChars cs) = some (p.1, encodeChars p.2) := by
    have read := writing_utf8.digits?_eq cs
    rw [found] at read
    exact read
  rw [percentDecode_percent, read] at same
  -- the escape would take three bytes and leave one
  obtain ⟨x, y, rfl⟩ := eq_of_digitChars? found
  have size := congrArg List.length same
  have longer := length_percentDecode_le (encodeChars p.2)
  have first := List.length_pos_iff.mpr (String.utf8EncodeChar_ne_nil (c := x))
  have second := List.length_pos_iff.mpr (String.utf8EncodeChar_ne_nil (c := y))
  simp only [Utf8.encodeChars_cons, List.length_cons, List.length_append] at size
  omega

theorem Plain.tail {c : Char} {cs : List Char} (plain : Plain (c :: cs)) : Plain cs := by
  have same : percentDecode (String.utf8EncodeChar c ++ encodeChars cs)
      = String.utf8EncodeChar c ++ encodeChars cs := plain
  by_cases percent : c = '%'
  · subst percent
    have read := writing_utf8.digits?_eq cs
    rw [plain.digitChars?_eq] at read
    have read : digits? (encodeChars cs) = none := read
    rw [writing_utf8.percent, List.singleton_append, percentDecode_percent, read] at same
    exact (List.cons.inj same).2
  · rw [percentDecode_append (percent_not_mem percent)] at same
    exact List.append_cancel_left same

/-- **Without escapes, only dots are dots.** -/
theorem Plain.plainDots {cs : List Char} (plain : Plain cs) : Url.plainDots cs = cs := by
  fun_induction Url.plainDots cs with
  | case1 rest | case2 rest => cases plain.digitChars?_eq
  | case3 c rest _ _ ih => rw [ih plain.tail]
  | case4 => rfl

end WorkloadIdentity.Host
