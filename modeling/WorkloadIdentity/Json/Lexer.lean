/-
  WorkloadIdentity.Json.Lexer ──── **WORDS, TEXTS AND NUMBERS AT THE HEAD OF A BYTE LIST.**

  A reader takes what it reads off a list of bytes and returns the rest.  **RULE**: a failure is
  placed by what was left when it was seen.  `taken` places it after the last byte taken, `peeked`
  one byte further, at the byte that was looked at (or at the end, if there is none).

  ✓ `Opening.of`  — what kind of value a byte opens
  ✓ `ident`, `stringToken`, `numberToken` — the scalars
-/
import WorkloadIdentity.Json.Fault
import WorkloadIdentity.Text.Utf8

namespace WorkloadIdentity.Json

/-! ## §1. Readers. -/

/-- A reader: what it read and the rest, or a failure. -/
abbrev Parse (α : Type) := List UInt8 → Except Failure (α × List UInt8)

/-- A broken grammar after the last byte taken. -/
def taken (m : Malformed) (rest : List UInt8) : Failure := ⟨.malformed m, rest.length⟩

/-- A broken grammar at the next byte. -/
def peeked (m : Malformed) (rest : List UInt8) : Failure := ⟨.malformed m, rest.length - 1⟩

/-- The code of a character as a byte. -/
abbrev byte (c : Char) : UInt8 := UInt8.ofNat c.toNat

/-- Whether a byte is a blank between tokens. -/
def isBlank (b : UInt8) : Bool := b == 32 || b == 10 || b == 9 || b == 13

/-- The rest after blanks. -/
def skipBlanks (rest : List UInt8) : List UInt8 := rest.dropWhile isBlank

/-! ## §2. What a byte opens. -/

/-- The kinds of value by their first byte. -/
inductive Opening where
  /-- The word null. -/
  | null
  /-- The word true. -/
  | yes
  /-- The word false. -/
  | no
  /-- A negative number. -/
  | minus
  /-- A number. -/
  | digit
  /-- A text. -/
  | quote
  /-- A sequence. -/
  | bracket
  /-- An object. -/
  | brace
  /-- Nothing. -/
  | other
  deriving DecidableEq

/-- What a byte opens. -/
def Opening.of (b : UInt8) : Opening :=
  if b = byte 'n' then .null
  else if b = byte 't' then .yes
  else if b = byte 'f' then .no
  else if b = byte '-' then .minus
  else if Text.isDigit b then .digit
  else if b = byte '"' then .quote
  else if b = byte '[' then .bracket
  else if b = byte '\x7b' then .brace
  else .other

/-! ## §3. Words. -/

/-- The rest after the given bytes, which must come next. -/
def ident : List UInt8 → List UInt8 → Except Failure (List UInt8)
  | [], rest => .ok rest
  | _ :: _, [] => .error (taken .endInValue [])
  | e :: expected, b :: rest => if b = e then ident expected rest else .error (taken .ident rest)

/-- What follows the first letter of null. -/
def nullTail : List UInt8 := [byte 'u', byte 'l', byte 'l']

/-- What follows the first letter of true. -/
def trueTail : List UInt8 := [byte 'r', byte 'u', byte 'e']

/-- What follows the first letter of false. -/
def falseTail : List UInt8 := [byte 'a', byte 'l', byte 's', byte 'e']

/-! ## §4. Texts. -/

/-- Where the reader of a text stands. -/
inductive StringState where
  /-- Between characters. -/
  | plain
  /-- After a backslash. -/
  | escape
  /-- In an escape of four digits, `seen` of which have been read; `high` is the leading surrogate
  that it must complete, if there is one. -/
  | hex (high : Option Nat) (seen : List UInt8)
  /-- After a leading surrogate, before a backslash. -/
  | pair (high : Nat)
  /-- After a leading surrogate and a backslash. -/
  | pairEscape (high : Nat)

/-- The value of four digits. -/
def fourDigits? (digits : List UInt8) : Option Nat :=
  digits.foldl (fun acc d => do some ((← acc) * 16 + (← Text.hexValue? d))) (some 0)

/-- The byte that a one-letter escape stands for. -/
def escaped? (b : UInt8) : Option UInt8 :=
  if b = byte '"' ∨ b = byte '\\' ∨ b = byte '/' then some b
  else if b = byte 'b' then some 8
  else if b = byte 'f' then some 12
  else if b = byte 'n' then some 10
  else if b = byte 'r' then some 13
  else if b = byte 't' then some 9
  else none

/-- The code unit of a complete escape: a character, or a surrogate that waits for its partner. -/
def codeUnit (high : Option Nat) (n : Nat) : Except Malformed (List UInt8 × StringState) :=
  match high with
  | none =>
    if 0xDC00 ≤ n ∧ n ≤ 0xDFFF then .error .surrogate
    else if 0xD800 ≤ n ∧ n ≤ 0xDBFF then .ok ([], .pair n)
    else .ok (String.utf8EncodeChar (Char.ofNat n), .plain)
  | some h =>
    if n < 0xDC00 ∨ 0xDFFF < n then .error .surrogate
    else
      .ok (String.utf8EncodeChar (Char.ofNat ((h - 0xD800) * 1024 + (n - 0xDC00) + 0x10000)), .plain)

/-- One byte of a text: the bytes it adds and the next state, `none` being the end of the text. -/
def stringStep (state : StringState) (b : UInt8) :
    Except Malformed (List UInt8 × Option StringState) :=
  match state with
  | .plain =>
    if b = byte '"' then .ok ([], none)
    else if b = byte '\\' then .ok ([], some .escape)
    else if b < 32 then .error .control
    else .ok ([b], some .plain)
  | .escape =>
    if b = byte 'u' then .ok ([], some (.hex none []))
    else match escaped? b with
      | some e => .ok ([e], some .plain)
      | none => .error .escape
  | .hex high seen =>
    if seen.length < 3 then .ok ([], some (.hex high (seen ++ [b])))
    else match fourDigits? (seen ++ [b]) with
      | none => .error .escape
      | some n => (codeUnit high n).map fun r => (r.1, some r.2)
  | .pair high => if b = byte '\\' then .ok ([], some (.pairEscape high)) else .error .unpaired
  | .pairEscape high => if b = byte 'u' then .ok ([], some (.hex (some high) [])) else .error .unpaired

/-- The bytes of a text after its opening quote. -/
def stringBytes (state : StringState) : Parse (List UInt8)
  | [] => .error (taken .endInString [])
  | b :: rest =>
    match stringStep state b with
    | .error m => .error (taken m rest)
    | .ok (out, none) => .ok (out, rest)
    | .ok (out, some next) => (stringBytes next rest).map fun r => (out ++ r.1, r.2)

/-- **A text after its opening quote**; its bytes must be UTF-8, and bytes that are not are refused
before the closing quote is taken. -/
def stringToken : Parse String := fun input => do
  let (bytes, rest) ← stringBytes .plain input
  match Utf8.decode? bytes with
  | some s => .ok (s, rest)
  | none => .error (taken .codePoint (byte '"' :: rest))

/-! ## §5. Numbers. -/

/-- The greatest unsigned word. -/
def wordBound : Nat := UInt64.size - 1

/-- Digits of a number as they are read: those that a word can hold are kept, the rest counted. -/
structure DigitRun where
  /-- The number that the kept digits make. -/
  significand : Nat
  /-- How many digits were kept in this run. -/
  kept : Nat
  /-- Whether a digit was dropped because the number would not fit a word. -/
  full : Bool
  /-- How many digits were dropped. -/
  dropped : Nat

/-- Read digits: a digit that would take the number out of a word is dropped, and so are all
digits after it. -/
def digitRun (run : DigitRun) : List UInt8 → DigitRun × List UInt8
  | [] => (run, [])
  | b :: rest =>
    match Text.digitValue? b with
    | none => (run, b :: rest)
    | some d =>
      if run.full ∨ wordBound < run.significand * 10 + d then
        digitRun { run with full := true, dropped := run.dropped + 1 } rest
      else digitRun { run with significand := run.significand * 10 + d, kept := run.kept + 1 } rest

/-- The greatest exponent that is still counted. -/
def exponentBound : Nat := 2147483647

/-- The digits of an exponent: the exponent, or the rest after the digit that took it out of
bounds. -/
def exponentDigits (e : Nat) : List UInt8 → Except (List UInt8) (Nat × List UInt8)
  | [] => .ok (e, [])
  | b :: rest =>
    match Text.digitValue? b with
    | none => .ok (e, b :: rest)
    | some d =>
      if exponentBound < e * 10 + d then .error rest else exponentDigits (e * 10 + d) rest

/-- An integer cut to the range of exponents. -/
def clampExponent (e : Int) : Int := max (-2147483648) (min e 2147483647)

/-- A floating point number from its parts. -/
def floatOf (negative : Bool) (significand : Nat) (exponent : Int) : Parse Number := fun rest =>
  match Magnitude.ofDecimal? significand exponent with
  | some m => .ok (.float ⟨negative, m⟩, rest)
  | none => .error (taken .range rest)

/-- The rest of a number after the letter of its exponent. -/
def exponentPart (negative : Bool) (significand : Nat) (start : Int) : Parse Number := fun input =>
  let sign := match input with
    | b :: rest => if b = byte '+' then (false, rest) else if b = byte '-' then (true, rest)
        else (false, input)
    | [] => (false, [])
  match sign.2 with
  | [] => .error (taken .endInValue [])
  | b :: rest =>
    match Text.digitValue? b with
    | none => .error (taken .number rest)
    | some d =>
      match exponentDigits d rest with
      | .ok (e, rest) =>
        floatOf negative significand (clampExponent (if sign.1 then start - e else start + e)) rest
      | .error rest =>
        if significand ≠ 0 ∧ !sign.1 then .error (taken .range rest)
        else .ok (.float ⟨negative, Magnitude.zero⟩, rest.dropWhile Text.isDigit)

/-- Whether a byte is the letter of an exponent. -/
def isExponentMark (b : UInt8) : Bool := b == byte 'e' || b == byte 'E'

/-- The rest of a number after its point; `start` is the power of ten of the digits before it. -/
def fraction (negative : Bool) (significand : Nat) (start : Int) : Parse Number := fun input =>
  let (run, rest) := digitRun ⟨significand, 0, false, 0⟩ input
  if run.kept = 0 ∧ !run.full then
    match rest with
    | [] => .error (peeked .endInValue [])
    | _ => .error (peeked .number rest)
  else
    let exponent := start - run.kept
    match rest with
    | b :: after =>
      if isExponentMark b then exponentPart negative run.significand exponent after
      else floatOf negative run.significand exponent rest
    | [] => floatOf negative run.significand exponent []

/-- An integer that was written without point or exponent: minus zero and negative numbers beyond
a signed word are floating point. -/
def integerOf (negative : Bool) (n : Nat) : Parse Number := fun rest =>
  if !negative then .ok (.integer n, rest)
  else if n = 0 ∨ 9223372036854775808 < n then floatOf true n 0 rest
  else .ok (.integer (-(n : Int)), rest)

/-- The rest of a number after its integer digits. -/
def afterInteger (negative : Bool) (run : DigitRun) : Parse Number := fun rest =>
  match rest with
  | b :: after =>
    if b = byte '.' then fraction negative run.significand run.dropped after
    else if isExponentMark b then exponentPart negative run.significand run.dropped after
    else if run.full then floatOf negative run.significand run.dropped rest
    else integerOf negative run.significand rest
  | [] =>
    if run.full then floatOf negative run.significand run.dropped []
    else integerOf negative run.significand []

/-- **A number after its sign.** -/
def numberToken (negative : Bool) : Parse Number
  | [] => .error (taken .endInValue [])
  | b :: rest =>
    match Text.digitValue? b with
    | none => .error (taken .number rest)
    | some 0 =>
      match rest with
      | c :: _ =>
        if Text.isDigit c then .error (peeked .number rest)
        else afterInteger negative ⟨0, 1, false, 0⟩ rest
      | [] => afterInteger negative ⟨0, 1, false, 0⟩ []
    | some d =>
      let (run, rest) := digitRun ⟨d, 1, false, 0⟩ rest
      afterInteger negative run rest

end WorkloadIdentity.Json
