/-
  WorkloadIdentity.Text.Utf8 ──── **UTF-8, STRICT AND FORGIVING.**

  Bytes are read one at a time by a small machine whose state is the character under way.
  **RULE**: where the bytes go wrong, the longest run that could still have become a character
  counts as one fault, and reading starts again at the byte that did not fit.

  ✓ `Utf8.scan`        — the characters and faults of a byte list, in order
  ✓ `Utf8.decode?`     — strict: no text at all if there is a fault
  ✓ `Utf8.decodeLossy` — forgiving: each fault becomes U+FFFD
  ✓ `Utf8.decodeLossy_of_decode?` — the two agree wherever the strict one answers
-/

namespace WorkloadIdentity.Utf8

/-! ## §1. Writing. -/

/-- The bytes of a text. -/
def encode (s : String) : List UInt8 := s.toList.flatMap String.utf8EncodeChar

/-! ## §2. Reading one byte. -/

/-- A character under way: its bits so far, how many bytes it still misses, and the range in
which the next of them must lie. -/
structure Pending where
  /-- The bits read so far. -/
  code : Nat
  /-- How many bytes are still missing. -/
  missing : Nat
  /-- The least byte that may follow. -/
  low : UInt8
  /-- The greatest byte that may follow. -/
  high : UInt8

/-- What one byte adds: characters (`some`) and faults (`none`), and the character under way. -/
abbrev Progress := List (Option Char) × Option Pending

/-- The first byte of a character.  The narrowed ranges rule out overlong forms, surrogates and
code points above U+10FFFF. -/
def lead (b : UInt8) : Progress :=
  if b < 0x80 then ([some (Char.ofNat b.toNat)], none)
  else if b < 0xC2 then ([none], none)
  else if b < 0xE0 then ([], some ⟨b.toNat - 0xC0, 1, 0x80, 0xBF⟩)
  else if b = 0xE0 then ([], some ⟨0, 2, 0xA0, 0xBF⟩)
  else if b = 0xED then ([], some ⟨0xD, 2, 0x80, 0x9F⟩)
  else if b < 0xF0 then ([], some ⟨b.toNat - 0xE0, 2, 0x80, 0xBF⟩)
  else if b = 0xF0 then ([], some ⟨0, 3, 0x90, 0xBF⟩)
  else if b < 0xF4 then ([], some ⟨b.toNat - 0xF0, 3, 0x80, 0xBF⟩)
  else if b = 0xF4 then ([], some ⟨4, 3, 0x80, 0x8F⟩)
  else ([none], none)

/-- One byte, in the state that the bytes before it left. -/
def step (pending : Option Pending) (b : UInt8) : Progress :=
  match pending with
  | none => lead b
  | some p =>
    if p.low ≤ b ∧ b ≤ p.high then
      let code := p.code * 64 + (b.toNat - 0x80)
      if p.missing ≤ 1 then ([some (Char.ofNat code)], none)
      else ([], some ⟨code, p.missing - 1, 0x80, 0xBF⟩)
    else (none :: (lead b).1, (lead b).2)

/-! ## §3. Reading a list of bytes. -/

/-- The characters and faults of a byte list that starts in the given state. -/
def scanFrom (pending : Option Pending) : List UInt8 → List (Option Char)
  | [] => if pending.isSome then [none] else []
  | b :: rest => (step pending b).1 ++ scanFrom (step pending b).2 rest

/-- The characters (`some`) and faults (`none`) of a byte list. -/
def scan (bytes : List UInt8) : List (Option Char) := scanFrom none bytes

/-- All characters, or nothing if one of them is a fault. -/
def whole? : List (Option Char) → Option (List Char)
  | [] => some []
  | none :: _ => none
  | some c :: rest => (whole? rest).map (c :: ·)

/-- **Strict decoding.** -/
def decode? (bytes : List UInt8) : Option String := (whole? (scan bytes)).map String.ofList

/-- **Forgiving decoding**: each fault becomes the replacement character. -/
def decodeLossy (bytes : List UInt8) : String :=
  String.ofList ((scan bytes).map (·.getD '\uFFFD'))

/-! ## §4. The two decodings agree. -/

theorem map_getD_of_whole? {cs : List (Option Char)} {s : List Char} (h : whole? cs = some s) :
    cs.map (·.getD '\uFFFD') = s := by
  induction cs generalizing s with
  | nil => simp_all [whole?]
  | cons c rest ih =>
    cases c with
    | none => simp [whole?] at h
    | some c =>
      obtain ⟨t, ht, rfl⟩ := Option.map_eq_some_iff.1 h
      simp [ih ht]

theorem decodeLossy_of_decode? {bytes : List UInt8} {s : String} (h : decode? bytes = some s) :
    decodeLossy bytes = s := by
  obtain ⟨cs, hcs, rfl⟩ := Option.map_eq_some_iff.1 h
  simp [decodeLossy, map_getD_of_whole? hcs]

end WorkloadIdentity.Utf8
