/-
  WorkloadIdentity.Json.Printer ──── **THE COMPACT TEXT OF A VALUE.**

  No blanks; in a text only the quote, the backslash and the characters below the space are
  escaped; floating point numbers are positional from 1e-5 up to below 1e16.

  ✓ `Json.render` — the text
-/
import WorkloadIdentity.Decimal.Shortest
import WorkloadIdentity.Json.Value

namespace WorkloadIdentity.Json

/-! ## §1. Texts. -/

/-- How one character is written inside a text. -/
def escapeChar (c : Char) : List Char :=
  if c = '"' then ['\\', '"']
  else if c = '\\' then ['\\', '\\']
  else if c = '\x08' then ['\\', 'b']
  else if c = '\x0c' then ['\\', 'f']
  else if c = '\n' then ['\\', 'n']
  else if c = '\r' then ['\\', 'r']
  else if c = '\t' then ['\\', 't']
  else if c.toNat < 0x20 then
    ['\\', 'u', '0', '0', Text.hexDigit (c.toNat / 16), Text.hexDigit (c.toNat % 16)]
  else [c]

/-- A text between quotes. -/
def quoted (s : String) : List Char := '"' :: s.toList.flatMap escapeChar ++ ['"']

/-! ## §2. Numbers. -/

/-- How floating point numbers are laid out. -/
def floatLayout : FloatLayout := ⟨-5, 16, 'e', true⟩

/-- The text of a number. -/
def Number.chars : Number → List Char
  | .integer n => Text.signedDecimal n
  | .float x => floatLayout.writeFloat x

/-! ## §3. Values. -/

mutual

/-- The characters of a value. -/
def chars : Json → List Char
  | .null => ['n', 'u', 'l', 'l']
  | .bool true => ['t', 'r', 'u', 'e']
  | .bool false => ['f', 'a', 'l', 's', 'e']
  | .number n => n.chars
  | .string s => quoted s
  | .array items => '[' :: charsOfItems items ++ [']']
  | .object fields => '\x7b' :: charsOfFields fields ++ ['\x7d']

/-- The characters of items, with commas between them. -/
def charsOfItems : List Json → List Char
  | [] => []
  | [v] => chars v
  | v :: w :: rest => chars v ++ ',' :: charsOfItems (w :: rest)

/-- The characters of fields, with commas between them. -/
def charsOfFields : List (String × Json) → List Char
  | [] => []
  | [(name, v)] => quoted name ++ ':' :: chars v
  | (name, v) :: f :: rest => quoted name ++ ':' :: chars v ++ ',' :: charsOfFields (f :: rest)

end

/-- **The compact text of a value.** -/
def render (v : Json) : String := String.ofList v.chars

end WorkloadIdentity.Json
