/-
  WorkloadIdentity.Json.Record ──── **RECORDS READ FIELD BY FIELD.**

  A record is read from an object, or from a sequence of all its fields in the order in which they
  are declared.  Fields that the record does not know are skipped.  **RULE**: what has been read
  so far is a draft; a field that the draft already holds is a duplicate, and a field that it
  still misses at the end is missing.

  Texts are read as they come, so the first thing wrong in the text is reported.  Values have
  their fields in ascending order, so the fault of the least name is reported.

  ✓ `TextField`, `TextRecord.read`   — from a text
  ✓ `ValueField`, `ValueRecord.read` — from a value
-/
import WorkloadIdentity.Json.Reader
import WorkloadIdentity.Json.Skip

namespace WorkloadIdentity.Json

/-! ## §1. Scalars in a text. -/

/-- A reader that is told how many more levels may be opened. -/
abbrev TextReader (α : Type) := Nat → Parse α

/-- The refusal of a value after all of it has been taken. -/
def refused (m : Mismatch) (rest : List UInt8) : Failure := ⟨.mismatch m, rest.length⟩

/-- The failure of a value of the wrong kind.  Scalars are read first and may fail on their own; of
a sequence or an object only the bracket is looked at. -/
def wrongKind (expected : String) (input : List UInt8) : Failure :=
  match input with
  | [] => peeked .value []
  | b :: rest =>
    let found {α : Type} (kind : α → Found) : Except Failure (α × List UInt8) → Failure
      | .error f => f
      | .ok (x, rest) => refused (.kind (kind x) expected) rest
    match Opening.of b with
    | .null => found (fun _ => .null) ((ident nullTail rest).map fun r => ((), r))
    | .yes => found (fun _ => .bool true) ((ident trueTail rest).map fun r => ((), r))
    | .no => found (fun _ => .bool false) ((ident falseTail rest).map fun r => ((), r))
    | .minus => found .number (numberToken true rest)
    | .digit => found .number (numberToken false (b :: rest))
    | .quote => found .string (stringToken rest)
    | .bracket => refused (.kind .sequence expected) (b :: rest)
    | .brace => refused (.kind .map expected) (b :: rest)
    | .other => peeked .value (b :: rest)

/-- A text. -/
def readString : TextReader String := fun _ input =>
  match skipBlanks input with
  | [] => .error (peeked .endInValue [])
  | b :: rest =>
    if Opening.of b = .quote then stringToken rest else .error (wrongKind "a string" (b :: rest))

/-- How a number fails to be, or is, a natural number up to a bound. -/
def natural? (bound : Nat) (expected : String) : Number → Except Mismatch Nat
  | .integer n =>
    if 0 ≤ n ∧ n ≤ bound then .ok n.toNat
    else .error (.bounds (.number (.integer n)) expected)
  | .float x => .error (.kind (.number (.float x)) expected)

/-- A natural number up to a bound. -/
def readNatural (bound : Nat) (expected : String) : TextReader Nat := fun _ input =>
  let finish : Except Failure (Number × List UInt8) → Except Failure (Nat × List UInt8)
    | .error f => .error f
    | .ok (n, rest) =>
      match natural? bound expected n with
      | .ok k => .ok (k, rest)
      | .error m => .error (refused m rest)
  match skipBlanks input with
  | [] => .error (peeked .endInValue [])
  | b :: rest =>
    match Opening.of b with
    | .minus => finish (numberToken true rest)
    | .digit => finish (numberToken false (b :: rest))
    | _ => .error (wrongKind expected (b :: rest))

/-- A value that may be null. -/
def readOptional {α : Type} (read : TextReader α) : TextReader (Option α) := fun depth input =>
  match skipBlanks input with
  | b :: rest =>
    if Opening.of b = .null then (ident nullTail rest).map fun r => (none, r)
    else (read depth (b :: rest)).map fun r => (some r.1, r.2)
  | [] => (read depth []).map fun r => (some r.1, r.2)

/-! ## §2. Records in a text. -/

/-- A field of a record with drafts in `σ`. -/
structure TextField (σ : Type) where
  /-- Its name. -/
  name : String
  /-- Whether a draft holds it. -/
  held : σ → Bool
  /-- Read its value into a draft. -/
  read : Nat → σ → Parse σ
  /-- Whether a sequence may end before it. -/
  mayEnd : Bool

/-- The field that reads a value of `α` and puts it into the draft. -/
def TextField.of {σ α : Type} (name : String) (read : TextReader α) (get : σ → Option α)
    (put : σ → α → σ) : TextField σ :=
  ⟨name, fun s => (get s).isSome,
    fun depth s input => (read depth input).map fun r => (put s r.1, r.2), false⟩

/-- The same field, where a sequence may end before it. -/
def TextField.orEnd {σ : Type} (f : TextField σ) : TextField σ := { f with mayEnd := true }

/-- A record with drafts in `σ`. -/
structure TextRecord (σ α : Type) where
  /-- What the record is called. -/
  title : String
  /-- The draft that holds nothing. -/
  blank : σ
  /-- The fields in the order of their declaration. -/
  fields : List (TextField σ)
  /-- The record of a draft, unless a field is missing. -/
  finish : σ → Except Mismatch α

/-- How a record and the number of its fields are called. -/
def titleWithSize (title : String) (size : Nat) : String :=
  title ++ " with " ++ String.ofList (Text.decimal size) ++
    (if size = 1 then " element" else " elements")

/-- Where a refusal inside an object is placed: after the brace that closes it, if that is next. -/
def afterObject (input : List UInt8) : List UInt8 :=
  match skipBlanks input with
  | b :: rest => if b = byte '\x7d' then rest else b :: rest
  | [] => []

/-- Where a refusal inside a sequence is placed: after the bracket that closes it, or after a
comma and blanks, if one of them is next. -/
def afterList (input : List UInt8) : List UInt8 :=
  match skipBlanks input with
  | b :: rest =>
    if b = byte ']' then rest else if b = byte ',' then skipBlanks rest else b :: rest
  | [] => []

/-- The rest after the bracket that must close a sequence. -/
def closeList (input : List UInt8) : Except Failure (List UInt8) :=
  match skipBlanks input with
  | [] => .error (peeked .endInList [])
  | b :: rest =>
    if b = byte ']' then .ok rest
    else if b = byte ',' then
      match skipBlanks rest with
      | c :: after =>
        if c = byte ']' then .error (peeked .trailingComma (c :: after))
        else .error (peeked .trailing (c :: after))
      | [] => .error (peeked .trailing [])
    else .error (peeked .trailing (b :: rest))

/-- The draft of the fields of an object; the rest starts at the brace that closes it. -/
def TextRecord.readFields {σ α : Type} (r : TextRecord σ α) (depth : Nat) :
    Nat → Bool → σ → Parse σ
  | 0, _, _, rest => .error (peeked .endInObject rest)
  | fuel + 1, first, s, input => do
    match ← nextKey first input with
    | (false, rest) => .ok (s, rest)
    | (true, rest) =>
      let (name, rest) ← stringToken rest
      match r.fields.find? (·.name == name) with
      | none => r.readFields depth fuel false s (← skip (← colon rest))
      | some f =>
        if f.held s then .error (refused (.duplicate f.name) (afterObject rest))
        else
          let (s, rest) ← f.read depth s (← colon rest)
          r.readFields depth fuel false s rest

/-- The draft of the items of a sequence, given the fields that are still due. -/
def TextRecord.readItems {σ α : Type} (r : TextRecord σ α) (depth : Nat) :
    List (TextField σ) → Nat → Bool → σ → Parse σ
  | [], _, _, s, rest => .ok (s, rest)
  | f :: due, index, first, s, input => do
    match ← nextItem first input with
    | (true, rest) =>
      let (s, rest) ← f.read depth s rest
      r.readItems depth due (index + 1) false s rest
    | (false, rest) =>
      if f.mayEnd then r.readItems depth due (index + 1) first s rest
      else
        .error (refused (.length index (titleWithSize r.title r.fields.length)) (afterList rest))

/-- **A record at the head of a text.** -/
def TextRecord.read {σ α : Type} (r : TextRecord σ α) : TextReader α := fun depth input =>
  match skipBlanks input with
  | [] => .error (peeked .endInValue [])
  | b :: rest =>
    match Opening.of b, depth with
    | .bracket, 0 | .brace, 0 => .error (peeked .depth (b :: rest))
    | .bracket, depth + 1 => do
      let (s, rest) ← r.readItems depth r.fields 0 true r.blank rest
      match r.finish s with
      | .error m => .error (refused m (afterList rest))
      | .ok x => .ok (x, ← closeList rest)
    | .brace, depth + 1 => do
      let (s, rest) ← r.readFields depth (rest.length + 1) true r.blank rest
      match r.finish s with
      | .error m => .error (refused m (afterObject rest))
      | .ok x => .ok (x, afterObject rest)
    | _, _ => .error (wrongKind r.title (b :: rest))

/-- **A record that is the whole of a text.** -/
def TextRecord.parse {σ α : Type} (r : TextRecord σ α) (text : List UInt8) : Except Error α :=
  whole (r.read depthBound) text

/-! ## §3. Values. -/

/-- A reader of values. -/
abbrev ValueReader (α : Type) := Json → Except Mismatch α

/-- A text. -/
def stringOf : ValueReader String
  | .string s => .ok s
  | v => .error (.kind (Found.of v) "a string")

/-- A value that may be null. -/
def optionalOf {α : Type} (read : ValueReader α) : ValueReader (Option α)
  | .null => .ok none
  | v => (read v).map some

/-- An object whose fields are all texts. -/
def stringMapOf : ValueReader (List (String × String))
  | .object fields => fields.mapM fun f => (stringOf f.2).map fun s => (f.1, s)
  | v => .error (.kind (Found.of v) "a map")

/-! ## §4. Records in a value. -/

/-- A field of a record with drafts in `σ`. -/
structure ValueField (σ : Type) where
  /-- Its name. -/
  name : String
  /-- Read its value into a draft. -/
  read : σ → Json → Except Mismatch σ

/-- The field that reads a value of `α` and puts it into the draft. -/
def ValueField.of {σ α : Type} (name : String) (read : ValueReader α) (put : σ → α → σ) :
    ValueField σ :=
  ⟨name, fun s v => (read v).map (put s)⟩

/-- A record all of whose fields may be missing, so that the draft is the record. -/
structure ValueRecord (σ : Type) where
  /-- What the record is called. -/
  title : String
  /-- The record that holds nothing. -/
  blank : σ
  /-- The fields in the order of their declaration. -/
  fields : List (ValueField σ)

/-- The record of the fields of an object, read in their order. -/
def ValueRecord.readFields {σ : Type} (r : ValueRecord σ) :
    σ → List (String × Json) → Except Mismatch σ
  | s, [] => .ok s
  | s, (name, v) :: rest =>
    match r.fields.find? (·.name == name) with
    | none => r.readFields s rest
    | some f => do r.readFields (← f.read s v) rest

/-- The record of the items of a sequence, given the fields that are still due. -/
def ValueRecord.readItems {σ : Type} (r : ValueRecord σ) (size : Nat) :
    List (ValueField σ) → Nat → σ → List Json → Except Mismatch σ
  | [], _, s, [] => .ok s
  | [], _, _, _ :: _ => .error (.length size "fewer elements in array")
  | _ :: _, index, _, [] => .error (.length index (titleWithSize r.title r.fields.length))
  | f :: due, index, s, v :: rest => do r.readItems size due (index + 1) (← f.read s v) rest

/-- **A record from a value.** -/
def ValueRecord.read {σ : Type} (r : ValueRecord σ) : ValueReader σ
  | .object fields => r.readFields r.blank fields
  | .array items => r.readItems items.length r.fields 0 r.blank items
  | v => .error (.kind (Found.of v) r.title)

end WorkloadIdentity.Json
