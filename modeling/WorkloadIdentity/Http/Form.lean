/-
  WorkloadIdentity.Http.Form ──── **FORM ENCODING.**

  Letters, digits and `*-._` stand for themselves, a space is a plus sign, every other byte is a
  percent sign and two upper-case digits; pairs are joined by ampersands.

  ✓ `Form.encode`  — pairs to bytes
  ✓ `Form.decode`  — bytes to pairs
-/
import WorkloadIdentity.Text.Digits
import WorkloadIdentity.Text.Utf8

namespace WorkloadIdentity.Form

/-! ## §1. Writing. -/

/-- Whether a byte stands for itself. -/
def isPlain (b : UInt8) : Bool :=
  (48 ≤ b && b ≤ 57) || (65 ≤ b && b ≤ 90) || (97 ≤ b && b ≤ 122) ||
    b == 42 || b == 45 || b == 46 || b == 95

/-- A percent sign and two upper-case digits. -/
def percent (b : UInt8) : List UInt8 :=
  [37, UInt8.ofNat (Text.hexDigitUpper (b.toNat / 16)).toNat,
    UInt8.ofNat (Text.hexDigitUpper (b.toNat % 16)).toNat]

/-- One byte. -/
def encodeByte (b : UInt8) : List UInt8 :=
  if isPlain b then [b] else if b = 32 then [43] else percent b

/-- One text. -/
def encodeText (s : String) : List UInt8 := (Utf8.encode s).flatMap encodeByte

/-- One pair. -/
def encodePair (p : String × String) : List UInt8 := encodeText p.1 ++ 61 :: encodeText p.2

/-- **All pairs, in order.** -/
def encode : List (String × String) → List UInt8
  | [] => []
  | [p] => encodePair p
  | p :: q :: rest => encodePair p ++ 38 :: encode (q :: rest)

/-! ## §2. Reading. -/

/-- Bytes with plus signs and percent escapes resolved; a percent sign without two digits stands
for itself. -/
def unescape : List UInt8 → List UInt8
  | 37 :: a :: b :: rest =>
    match Text.hexValue? a, Text.hexValue? b with
    | some x, some y => UInt8.ofNat (x * 16 + y) :: unescape rest
    | _, _ => 37 :: unescape (a :: b :: rest)
  | 43 :: rest => 32 :: unescape rest
  | b :: rest => b :: unescape rest
  | [] => []

/-- The pieces of a list between the places of a byte. -/
def splitAt (mark : UInt8) : List UInt8 → List (List UInt8)
  | [] => [[]]
  | b :: rest =>
    if b = mark then [] :: splitAt mark rest
    else match splitAt mark rest with
      | [] => [[b]]
      | piece :: pieces => (b :: piece) :: pieces

/-- Name and value of a piece. -/
def decodePair (piece : List UInt8) : String × String :=
  let name := piece.takeWhile (· != 61)
  let value := (piece.dropWhile (· != 61)).drop 1
  (Utf8.decodeLossy (unescape name), Utf8.decodeLossy (unescape value))

/-- **The pairs of a form.** -/
def decode (bytes : List UInt8) : List (String × String) :=
  ((splitAt 38 bytes).filter (· ≠ [])).map decodePair

end WorkloadIdentity.Form
