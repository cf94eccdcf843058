/-
  WorkloadIdentity.Json.Fault ──── **WHAT CAN BE WRONG WITH A JSON TEXT, AND WHERE.**

  A fault is a cause with one wording.  Reading a text reports a fault together with the number of
  bytes that were left when it was seen; `Position.of` turns that number into a line and a column.

  ✓ `Malformed`, `Mismatch` — faults of a text, and of a value that does not fit
  ✓ `Json.Error.message`  — the one wording
-/
import WorkloadIdentity.Json.Printer
import WorkloadIdentity.Text.Quoted

namespace WorkloadIdentity.Json

/-! ## §1. Faults of a text. -/

/-- What breaks the grammar. -/
inductive Malformed where
  /-- The text ends where a value is due. -/
  | endInValue
  /-- The text ends inside an object. -/
  | endInObject
  /-- The text ends inside a sequence. -/
  | endInList
  /-- The text ends inside a text. -/
  | endInString
  /-- A word that starts like null, true or false goes on otherwise. -/
  | ident
  /-- No value starts here. -/
  | value
  /-- No colon after a name. -/
  | colon
  /-- Neither a comma nor the end of an object. -/
  | commaOrBrace
  /-- Neither a comma nor the end of a sequence. -/
  | commaOrBracket
  /-- A comma before the end of a sequence or object. -/
  | trailingComma
  /-- A name that is not a text. -/
  | key
  /-- Something after the value. -/
  | trailing
  /-- A number that breaks its grammar. -/
  | number
  /-- A number too large for floating point. -/
  | range
  /-- An unknown escape. -/
  | escape
  /-- A leading surrogate with no escape after it. -/
  | unpaired
  /-- A surrogate without its partner. -/
  | surrogate
  /-- A text that is not UTF-8. -/
  | codePoint
  /-- A character below the space inside a text. -/
  | control
  /-- Too many open sequences and objects. -/
  | depth
  deriving DecidableEq

/-- The wording of a broken grammar. -/
def Malformed.message : Malformed → String
  | .endInValue => "EOF while parsing a value"
  | .endInObject => "EOF while parsing an object"
  | .endInList => "EOF while parsing a list"
  | .endInString => "EOF while parsing a string"
  | .ident => "expected ident"
  | .value => "expected value"
  | .colon => "expected `:`"
  | .commaOrBrace => "expected `,` or `\x7d`"
  | .commaOrBracket => "expected `,` or `]`"
  | .trailingComma => "trailing comma"
  | .key => "key must be a string"
  | .trailing => "trailing characters"
  | .number => "invalid number"
  | .range => "number out of range"
  | .escape => "invalid escape"
  | .unpaired => "unexpected end of hex escape"
  | .surrogate => "lone leading surrogate in hex escape"
  | .codePoint => "invalid unicode code point"
  | .control => "control character (\\u0000-\\u001F) found while parsing a string"
  | .depth => "recursion limit exceeded"

/-! ## §2. Values that do not fit. -/

/-- What was found where something else was due. -/
inductive Found where
  /-- The null value. -/
  | null
  /-- A truth value. -/
  | bool (b : Bool)
  /-- A number. -/
  | number (n : Number)
  /-- A text. -/
  | string (s : String)
  /-- A sequence. -/
  | sequence
  /-- An object. -/
  | map

/-- What a value counts as. -/
def Found.of : Json → Found
  | .null => .null
  | .bool b => .bool b
  | .number n => .number n
  | .string s => .string s
  | .array _ => .sequence
  | .object _ => .map

/-- How it is called. -/
def Found.message : Found → String
  | .null => "null"
  | .bool true => "boolean `true`"
  | .bool false => "boolean `false`"
  | .number (.integer n) => "integer `" ++ String.ofList (Text.signedDecimal n) ++ "`"
  | .number (.float x) => "floating point `" ++ String.ofList (floatLayout.writeFloat x) ++ "`"
  | .string s => "string " ++ Text.quote s
  | .sequence => "sequence"
  | .map => "map"

/-- Why a well-formed value is refused. -/
inductive Mismatch where
  /-- A value of another kind. -/
  | kind (found : Found) (expected : String)
  /-- A value of the right kind that is out of bounds. -/
  | bounds (found : Found) (expected : String)
  /-- A sequence of the wrong length. -/
  | length (n : Nat) (expected : String)
  /-- A field that is there twice. -/
  | duplicate (name : String)
  /-- A field that is not there. -/
  | missing (name : String)
  /-- A value that fits none of several forms. -/
  | noForm (name : String)

/-- The wording of a refusal. -/
def Mismatch.message : Mismatch → String
  | .kind found expected => "invalid type: " ++ found.message ++ ", expected " ++ expected
  | .bounds found expected => "invalid value: " ++ found.message ++ ", expected " ++ expected
  | .length n expected =>
    "invalid length " ++ String.ofList (Text.decimal n) ++ ", expected " ++ expected
  | .duplicate name => "duplicate field `" ++ name ++ "`"
  | .missing name => "missing field `" ++ name ++ "`"
  | .noForm name => "data did not match any variant of untagged enum " ++ name

/-! ## §3. Faults in place. -/

/-- A broken grammar or a refused value. -/
inductive Fault where
  /-- The grammar is broken. -/
  | malformed (m : Malformed)
  /-- The value does not fit. -/
  | mismatch (m : Mismatch)

/-- The wording of a fault. -/
def Fault.message : Fault → String
  | .malformed m => m.message
  | .mismatch m => m.message

/-- A fault, and how many bytes of the text lie beyond it. -/
structure Failure where
  /-- What is wrong. -/
  fault : Fault
  /-- How many bytes were left. -/
  left : Nat

/-- A place in a text. -/
structure Position where
  /-- The line, counted from one. -/
  line : Nat
  /-- How many bytes of the line lie before the place. -/
  column : Nat

/-- The place beyond which `left` bytes of a text lie. -/
def Position.of (text : List UInt8) (left : Nat) : Position :=
  let before := text.take (text.length - left)
  ⟨before.count 10 + 1, (before.reverse.takeWhile (· != 10)).length⟩

/-- A fault, and its place if it was found in a text. -/
structure Error where
  /-- What is wrong. -/
  fault : Fault
  /-- Where. -/
  position : Option Position

/-- **The wording of an error.** -/
def Error.message (e : Error) : String :=
  match e.position with
  | none => e.fault.message
  | some p =>
    e.fault.message ++ " at line " ++ String.ofList (Text.decimal p.line) ++ " column " ++
      String.ofList (Text.decimal p.column)

/-- The error of a failure in a text. -/
def Failure.inText (f : Failure) (text : List UInt8) : Error :=
  ⟨f.fault, some (Position.of text f.left)⟩

end WorkloadIdentity.Json
