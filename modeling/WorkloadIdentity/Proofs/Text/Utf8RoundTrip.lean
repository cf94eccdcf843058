/-
  WorkloadIdentity.Proofs.Text.Utf8RoundTrip ──── **A TEXT IS READ BACK FROM ITS BYTES.**

  The reader of UTF-8 takes one byte at a time.  The bytes of one character lead it from rest to
  rest and make it give out just this character, whatever comes after them; a text follows by
  induction on its characters.

  Main results:
    * `Utf8.scan_char`      — the bytes of one character, in front of others
    * `Utf8.decode?_encode` — strict decoding gives every text back
    * `Utf8.decodeLossy_encode` — so does forgiving decoding
    * `Utf8.all_encode_iff` — what is checked byte by byte is checked character by character
-/
import Mathlib.Tactic.IntervalCases
import WorkloadIdentity.Text.Utf8

namespace WorkloadIdentity.Utf8

/-! ## §1. The first byte. -/

/-- A number below 256 is kept by the byte made of it. -/
theorem toNat_byte {n : Nat} (h : n < 256) : (UInt8.ofNat n).toNat = n :=
  UInt8.toNat_ofNat_of_lt' h

theorem lead_one {n : Nat} (h : n < 128) :
    lead (UInt8.ofNat n) = ([some (Char.ofNat n)], none) := by
  have kept : (UInt8.ofNat n).toNat = n := toNat_byte (by omega)
  have small : UInt8.ofNat n < 0x80 := by
    rw [UInt8.lt_iff_toNat_lt, kept]
    exact h
  unfold lead
  rw [if_pos small, kept]

theorem lead_two {n : Nat} (low : 2 ≤ n) (high : n < 32) :
    lead (UInt8.ofNat (n + 192)) = ([], some ⟨n, 1, 0x80, 0xBF⟩) := by
  interval_cases n <;> rfl

/-- After the first of three bytes the range of the next is narrowed twice: at the bottom against
overlong forms, at the top against surrogates. -/
theorem lead_three {n : Nat} (h : n < 16) :
    lead (UInt8.ofNat (n + 224)) = ([], some ⟨n, 2, if n = 0 then 0xA0 else 0x80,
      if n = 13 then 0x9F else 0xBF⟩) := by
  interval_cases n <;> rfl

/-- After the first of four bytes it is narrowed against overlong forms and code points that are
too great. -/
theorem lead_four {n : Nat} (h : n < 5) :
    lead (UInt8.ofNat (n + 240)) = ([], some ⟨n, 3, if n = 0 then 0x90 else 0x80,
      if n = 4 then 0x8F else 0xBF⟩) := by
  interval_cases n <;> rfl

/-! ## §2. The bytes after it. -/

section Tail

variable {code missing tail : Nat} {low high : UInt8}

/-- Six bits in a byte, and the range that it has to lie in. -/
theorem in_range (bound : tail < 64) (above : low.toNat ≤ tail + 128)
    (below : tail + 128 ≤ high.toNat) :
    (UInt8.ofNat (tail + 128)).toNat = tail + 128 ∧
      low ≤ UInt8.ofNat (tail + 128) ∧ UInt8.ofNat (tail + 128) ≤ high := by
  have kept : (UInt8.ofNat (tail + 128)).toNat = tail + 128 := toNat_byte (by omega)
  rw [UInt8.le_iff_toNat_le, UInt8.le_iff_toNat_le, kept]
  exact ⟨rfl, above, below⟩

/-- A byte in its range goes on with the character. -/
theorem step_more (bound : tail < 64) (above : low.toNat ≤ tail + 128)
    (below : tail + 128 ≤ high.toNat) :
    step (some ⟨code, missing + 2, low, high⟩) (UInt8.ofNat (tail + 128))
      = ([], some ⟨code * 64 + tail, missing + 1, 0x80, 0xBF⟩) := by
  obtain ⟨kept, inside⟩ := in_range bound above below
  simp only [step, if_pos inside, kept, Nat.add_sub_cancel]
  rw [if_neg (by omega)]
  rfl

/-- The last byte completes it. -/
theorem step_last (bound : tail < 64) (above : low.toNat ≤ tail + 128)
    (below : tail + 128 ≤ high.toNat) :
    step (some ⟨code, 1, low, high⟩) (UInt8.ofNat (tail + 128))
      = ([some (Char.ofNat (code * 64 + tail))], none) := by
  obtain ⟨kept, inside⟩ := in_range bound above below
  simp only [step, if_pos inside, kept, Nat.add_sub_cancel]
  rw [if_pos (by omega)]

end Tail

/-! ## §3. One character. -/

section Character

variable {v : Nat} (rest : List UInt8)

theorem scan_one (high : v < 128) :
    scan (UInt8.ofNat v :: rest) = some (Char.ofNat v) :: scan rest := by
  simp only [scan, scanFrom, step.eq_1, lead_one high, List.cons_append, List.nil_append]

/-- In each of the longer forms the reader joins again what was split into groups of six bits. -/
theorem scan_two (low : 128 ≤ v) (high : v < 2048) :
    scan (UInt8.ofNat (v / 64 % 32 + 192) :: UInt8.ofNat (v % 64 + 128) :: rest)
      = some (Char.ofNat v) :: scan rest := by
  have joined : v / 64 % 32 * 64 + v % 64 = v := by omega
  have last : step (some ⟨v / 64 % 32, 1, 0x80, 0xBF⟩) (UInt8.ofNat (v % 64 + 128))
      = ([some (Char.ofNat (v / 64 % 32 * 64 + v % 64))], none) :=
    step_last (by omega) (by show 128 ≤ _; omega) (by show _ ≤ 191; omega)
  simp only [scan, scanFrom, step.eq_1, lead_two (n := v / 64 % 32) (by omega) (by omega), last,
    joined, List.cons_append, List.nil_append]

theorem scan_three (low : 2048 ≤ v) (high : v < 65536) (valid : v < 0xD800 ∨ 0xDFFF < v) :
    scan (UInt8.ofNat (v / 4096 % 16 + 224) :: UInt8.ofNat (v / 64 % 64 + 128) ::
        UInt8.ofNat (v % 64 + 128) :: rest)
      = some (Char.ofNat v) :: scan rest := by
  have joined : (v / 4096 % 16 * 64 + v / 64 % 64) * 64 + v % 64 = v := by omega
  -- where the range is narrowed, the code is in the part of the plane that the range allows
  have middle : step (some ⟨v / 4096 % 16, 2, if v / 4096 % 16 = 0 then 0xA0 else 0x80,
        if v / 4096 % 16 = 13 then 0x9F else 0xBF⟩) (UInt8.ofNat (v / 64 % 64 + 128))
      = ([], some ⟨v / 4096 % 16 * 64 + v / 64 % 64, 1, 0x80, 0xBF⟩) :=
    step_more (by omega) (by split <;> first | (show 160 ≤ _; omega) | (show 128 ≤ _; omega))
      (by split <;> first | (show _ ≤ 159; omega) | (show _ ≤ 191; omega))
  have last : step (some ⟨v / 4096 % 16 * 64 + v / 64 % 64, 1, 0x80, 0xBF⟩)
        (UInt8.ofNat (v % 64 + 128))
      = ([some (Char.ofNat ((v / 4096 % 16 * 64 + v / 64 % 64) * 64 + v % 64))], none) :=
    step_last (by omega) (by show 128 ≤ _; omega) (by show _ ≤ 191; omega)
  simp only [scan, scanFrom, step.eq_1, lead_three (n := v / 4096 % 16) (by omega), middle, last,
    joined, List.cons_append, List.nil_append]

theorem scan_four (low : 65536 ≤ v) (high : v < 0x110000) :
    scan (UInt8.ofNat (v / 262144 % 8 + 240) :: UInt8.ofNat (v / 4096 % 64 + 128) ::
        UInt8.ofNat (v / 64 % 64 + 128) :: UInt8.ofNat (v % 64 + 128) :: rest)
      = some (Char.ofNat v) :: scan rest := by
  have joined :
      ((v / 262144 % 8 * 64 + v / 4096 % 64) * 64 + v / 64 % 64) * 64 + v % 64 = v := by omega
  have second : step (some ⟨v / 262144 % 8, 3, if v / 262144 % 8 = 0 then 0x90 else 0x80,
        if v / 262144 % 8 = 4 then 0x8F else 0xBF⟩) (UInt8.ofNat (v / 4096 % 64 + 128))
      = ([], some ⟨v / 262144 % 8 * 64 + v / 4096 % 64, 2, 0x80, 0xBF⟩) :=
    step_more (by omega) (by split <;> first | (show 144 ≤ _; omega) | (show 128 ≤ _; omega))
      (by split <;> first | (show _ ≤ 143; omega) | (show _ ≤ 191; omega))
  have third : step (some ⟨v / 262144 % 8 * 64 + v / 4096 % 64, 2, 0x80, 0xBF⟩)
        (UInt8.ofNat (v / 64 % 64 + 128))
      = ([], some ⟨(v / 262144 % 8 * 64 + v / 4096 % 64) * 64 + v / 64 % 64, 1, 0x80, 0xBF⟩) :=
    step_more (by omega) (by show 128 ≤ _; omega) (by show _ ≤ 191; omega)
  have last : step (some ⟨(v / 262144 % 8 * 64 + v / 4096 % 64) * 64 + v / 64 % 64, 1, 0x80, 0xBF⟩)
        (UInt8.ofNat (v % 64 + 128))
      = ([some (Char.ofNat
          (((v / 262144 % 8 * 64 + v / 4096 % 64) * 64 + v / 64 % 64) * 64 + v % 64))], none) :=
    step_last (by omega) (by show 128 ≤ _; omega) (by show _ ≤ 191; omega)
  simp only [scan, scanFrom, step.eq_1, lead_four (n := v / 262144 % 8) (by omega), second, third,
    last, joined, List.cons_append, List.nil_append]

end Character

/-- **The bytes of a character make the reader give out this character.** -/
theorem scan_char (c : Char) (rest : List UInt8) :
    scan (String.utf8EncodeChar c ++ rest) = some c :: scan rest := by
  have valid : c.toNat < 0xD800 ∨ 0xDFFF < c.toNat ∧ c.toNat < 0x110000 := c.valid
  have whole : Char.ofNat c.toNat = c := Char.ofNat_toNat c
  unfold String.utf8EncodeChar
  change scan ((if c.toNat ≤ 127 then [UInt8.ofNat c.toNat] else if c.toNat ≤ 2047 then _ else
    if c.toNat ≤ 65535 then _ else _) ++ rest) = _
  split
  · have read := scan_one (v := c.toNat) rest (by omega)
    rw [whole] at read
    exact read
  split
  · have read := scan_two (v := c.toNat) rest (by omega) (by omega)
    rw [whole] at read
    exact read
  split
  · have read := scan_three (v := c.toNat) rest (by omega) (by omega) (by omega)
    rw [whole] at read
    exact read
  · have read := scan_four (v := c.toNat) rest (by omega) (by omega)
    rw [whole] at read
    exact read

/-! ## §4. Bytes of a character. -/

/-- An ASCII character is one byte. -/
theorem utf8EncodeChar_ascii {c : Char} (h : c.toNat < 128) :
    String.utf8EncodeChar c = [UInt8.ofNat c.toNat] := by
  unfold String.utf8EncodeChar
  exact if_pos (Nat.le_of_lt_succ h)

/-- All bytes of another one lie above ASCII. -/
theorem high_of_mem_utf8EncodeChar {c : Char} (h : 128 ≤ c.toNat) {b : UInt8}
    (hb : b ∈ String.utf8EncodeChar c) : 128 ≤ b.toNat := by
  have valid : c.toNat < 0x110000 := by
    have either : c.toNat < 0xD800 ∨ 0xDFFF < c.toNat ∧ c.toNat < 0x110000 := c.valid
    omega
  unfold String.utf8EncodeChar at hb
  change b ∈ (if c.toNat ≤ 127 then [UInt8.ofNat c.toNat] else if c.toNat ≤ 2047 then _ else
    if c.toNat ≤ 65535 then _ else _) at hb
  rw [if_neg (by omega)] at hb
  -- each byte is a sum with one of the marks 128, 192, 224 and 240
  have byte : ∃ n, 128 ≤ n ∧ n < 256 ∧ b = UInt8.ofNat n := by
    split at hb
    · simp only [List.mem_cons, List.not_mem_nil, or_false] at hb
      rcases hb with rfl | rfl
      all_goals exact ⟨_, by omega, by omega, rfl⟩
    split at hb
    · simp only [List.mem_cons, List.not_mem_nil, or_false] at hb
      rcases hb with rfl | rfl | rfl
      all_goals exact ⟨_, by omega, by omega, rfl⟩
    · simp only [List.mem_cons, List.not_mem_nil, or_false] at hb
      rcases hb with rfl | rfl | rfl | rfl
      all_goals exact ⟨_, by omega, by omega, rfl⟩
  obtain ⟨n, above, below, rfl⟩ := byte
  rw [toNat_byte below]
  exact above

/-! ## §5. Texts. -/

/-- The bytes of characters, in order. -/
def encodeChars (cs : List Char) : List UInt8 := cs.flatMap String.utf8EncodeChar

@[simp] theorem encode_ofList (cs : List Char) : encode (String.ofList cs) = encodeChars cs := by
  rw [encode, String.toList_ofList, encodeChars]

@[simp] theorem encodeChars_nil : encodeChars [] = [] := rfl

theorem encodeChars_cons (c : Char) (cs : List Char) :
    encodeChars (c :: cs) = String.utf8EncodeChar c ++ encodeChars cs := rfl

@[simp] theorem encodeChars_append (cs ds : List Char) :
    encodeChars (cs ++ ds) = encodeChars cs ++ encodeChars ds := List.flatMap_append

theorem scan_encode (s : String) : scan (encode s) = s.toList.map some := by
  unfold encode
  -- one character after another; what follows it does not matter to its bytes
  induction s.toList with
  | nil => rfl
  | cons c rest ih =>
    rw [List.flatMap_cons, scan_char, ih]
    rfl

theorem whole?_map_some (cs : List Char) : whole? (cs.map some) = some cs := by
  induction cs with
  | nil => rfl
  | cons c rest ih =>
    simp only [List.map_cons, whole?, ih]
    rfl

/-- **Strict decoding gives every text back.** -/
theorem decode?_encode (s : String) : decode? (encode s) = some s := by
  unfold decode?
  rw [scan_encode, whole?_map_some]
  exact congrArg some String.ofList_toList

/-- **So does forgiving decoding.** -/
theorem decodeLossy_encode (s : String) : decodeLossy (encode s) = s :=
  decodeLossy_of_decode? (decode?_encode s)

/-- Different texts have different bytes. -/
theorem encode_inj {s t : String} : encode s = encode t ↔ s = t := by
  refine ⟨fun same => ?_, congrArg encode⟩
  rw [← decodeLossy_encode s, same, decodeLossy_encode]

theorem encode_eq_nil_iff {s : String} : encode s = [] ↔ s = "" := encode_inj (t := "")

/-! ## §6. Bytes and characters. -/

/-- A check of bytes is a check of characters. -/
theorem all_encode_iff {p : UInt8 → Bool} {q : Char → Prop}
    (each : ∀ c, (∀ b ∈ String.utf8EncodeChar c, p b = true) ↔ q c) (s : String) :
    (encode s).all p = true ↔ ∀ c ∈ s.toList, q c := by
  unfold encode
  rw [List.all_eq_true]
  constructor
  · intro bytes c member
    exact (each c).mp fun b inside => bytes b (List.mem_flatMap.mpr ⟨c, member, inside⟩)
  · intro chars b inside
    obtain ⟨c, member, inside⟩ := List.mem_flatMap.mp inside
    exact (each c).mpr (chars c member) b inside

/-- An ASCII text has as many bytes as characters. -/
theorem length_encode_ascii {s : String} (ascii : ∀ c ∈ s.toList, c.toNat < 128) :
    (encode s).length = s.length := by
  have ones : s.toList.map (fun c => (String.utf8EncodeChar c).length)
      = List.replicate s.toList.length 1 := by
    rw [List.eq_replicate_iff, List.length_map]
    refine ⟨rfl, fun n listed => ?_⟩
    obtain ⟨c, member, rfl⟩ := List.mem_map.mp listed
    rw [utf8EncodeChar_ascii (ascii c member)]
    rfl
  unfold encode
  rw [List.length_flatMap, ones, List.sum_replicate_nat, Nat.mul_one, String.length_toList]

/-- The bytes of a character are what it is, or are all above ASCII. -/
theorem forall_utf8EncodeChar_iff {p : UInt8 → Bool} {above : Prop}
    (high : ∀ b : UInt8, 128 ≤ b.toNat → (p b = true ↔ above)) (c : Char) :
    (∀ b ∈ String.utf8EncodeChar c, p b = true) ↔
      if c.toNat < 128 then p (UInt8.ofNat c.toNat) = true else above := by
  split
  · rename_i ascii
    rw [utf8EncodeChar_ascii ascii, List.forall_mem_singleton]
  · rename_i other
    have bytes := fun b inside => high_of_mem_utf8EncodeChar (Nat.le_of_not_lt other) (b := b) inside
    constructor
    · intro each
      obtain ⟨b, inside⟩ := List.exists_mem_of_ne_nil _ (String.utf8EncodeChar_ne_nil (c := c))
      exact (high b (bytes b inside)).mp (each b inside)
    · intro holds b inside
      exact (high b (bytes b inside)).mpr holds

end WorkloadIdentity.Utf8
