/-
  WorkloadIdentity.Text.Quoted ──── **A TEXT IN QUOTES, WITH ALL THAT CANNOT BE SEEN SPELLED OUT.**

  **RULE**: a quote and a backslash take a backslash; NUL, tab, line feed and carriage return have
  letters of their own; every other hidden character is written by its code point in braces; all
  else stands as it is.

  ✓ `Text.quoteChar` — one character
  ✓ `Text.quote`     — a whole text
-/
import WorkloadIdentity.Text.Digits
import WorkloadIdentity.Text.Printable

namespace WorkloadIdentity.Text

/-- How one character is shown between quotes. -/
def quoteChar (c : Char) : List Char :=
  if c = '"' then ['\\', '"']
  else if c = '\\' then ['\\', '\\']
  else if c = '\x00' then ['\\', '0']
  else if c = '\t' then ['\\', 't']
  else if c = '\n' then ['\\', 'n']
  else if c = '\r' then ['\\', 'r']
  else if isHidden c.toNat then ['\\', 'u', '\x7b'] ++ hexadecimal c.toNat ++ ['\x7d']
  else [c]

/-- **A text in quotes.** -/
def quote (s : String) : String :=
  String.ofList ('"' :: s.toList.flatMap quoteChar ++ ['"'])

end WorkloadIdentity.Text
