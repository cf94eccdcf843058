/-
  WorkloadIdentity.Json.Reader ──── **FROM A TEXT TO A VALUE.**

  Sequences and objects are read by two loops that take the reader of one item as an argument; the
  reader of a value passes itself to them with one level of depth less.  **RULE**: at most 127
  sequences and objects may be open at once.

  ✓ `nextItem`, `nextKey` — what comes before an item: a comma where one is due, or the end
  ✓ `value`               — a value with a bound on its depth
  ✓ `Json.parse`          — a whole text
-/
import WorkloadIdentity.Json.Lexer

namespace WorkloadIdentity.Json

/-! ## §1. Between items. -/

/-- Whether another item follows in a sequence; the rest starts at the item, or at the bracket
that closes the sequence. -/
def nextItem (first : Bool) : Parse Bool := fun input =>
  match skipBlanks input with
  | [] => .error (peeked .endInList [])
  | b :: rest =>
    if b = byte ']' then .ok (false, b :: rest)
    else if first then .ok (true, b :: rest)
    else if b = byte ',' then
      match skipBlanks rest with
      | [] => .error (peeked .endInValue [])
      | c :: after =>
        if c = byte ']' then .error (peeked .trailingComma (c :: after)) else .ok (true, c :: after)
    else .error (peeked .commaOrBracket (b :: rest))

/-- Whether another field follows in an object; the rest starts after the quote that opens its
name, or at the brace that closes the object. -/
def nextKey (first : Bool) : Parse Bool := fun input =>
  match skipBlanks input with
  | [] => .error (peeked .endInObject [])
  | b :: rest =>
    if b = byte '\x7d' then .ok (false, b :: rest)
    else if first then
      if b = byte '"' then .ok (true, rest) else .error (peeked .key (b :: rest))
    else if b = byte ',' then
      match skipBlanks rest with
      | [] => .error (peeked .endInValue [])
      | c :: after =>
        if c = byte '"' then .ok (true, after)
        else if c = byte '\x7d' then .error (peeked .trailingComma (c :: after))
        else .error (peeked .key (c :: after))
    else .error (peeked .commaOrBrace (b :: rest))

/-- The rest after the colon between a name and its value. -/
def colon (input : List UInt8) : Except Failure (List UInt8) :=
  match skipBlanks input with
  | [] => .error (peeked .endInObject [])
  | b :: rest => if b = byte ':' then .ok rest else .error (peeked .colon (b :: rest))

/-! ## §2. The two loops. -/

/-- The items of a sequence up to the bracket that closes it, which is taken too.  The fuel counts
items; a text has fewer of them than bytes. -/
def items {α : Type} (item : Parse α) : Nat → Bool → Parse (List α)
  | 0, _, rest => .error (peeked .endInList rest)
  | fuel + 1, first, input => do
    match ← nextItem first input with
    | (false, rest) => .ok ([], rest.drop 1)
    | (true, rest) =>
      let (x, rest) ← item rest
      let (xs, rest) ← items item fuel false rest
      .ok (x :: xs, rest)

/-- The fields of an object up to the brace that closes it, which is taken too. -/
def members {α : Type} (item : Parse α) : Nat → Bool → Parse (List (String × α))
  | 0, _, rest => .error (peeked .endInObject rest)
  | fuel + 1, first, input => do
    match ← nextKey first input with
    | (false, rest) => .ok ([], rest.drop 1)
    | (true, rest) =>
      let (name, rest) ← stringToken rest
      let rest ← colon rest
      let (x, rest) ← item rest
      let (xs, rest) ← members item fuel false rest
      .ok ((name, x) :: xs, rest)

/-! ## §3. Values. -/

/-- A value that opens at most `depth` levels.  In an object the last field of a name wins. -/
def value : Nat → Parse Json
  | depth, input =>
    match skipBlanks input with
    | [] => .error (peeked .endInValue [])
    | b :: rest =>
      match Opening.of b, depth with
      | .null, _ => (ident nullTail rest).map fun r => (.null, r)
      | .yes, _ => (ident trueTail rest).map fun r => (.bool true, r)
      | .no, _ => (ident falseTail rest).map fun r => (.bool false, r)
      | .minus, _ => (numberToken true rest).map fun r => (.number r.1, r.2)
      | .digit, _ => (numberToken false (b :: rest)).map fun r => (.number r.1, r.2)
      | .quote, _ => (stringToken rest).map fun r => (.string r.1, r.2)
      | .bracket, 0 | .brace, 0 => .error (peeked .depth (b :: rest))
      | .bracket, depth + 1 =>
        (items (value depth) (rest.length + 1) true rest).map fun r => (.array r.1, r.2)
      | .brace, depth + 1 =>
        (members (value depth) (rest.length + 1) true rest).map fun r => (.ofFields r.1, r.2)
      | .other, _ => .error (peeked .value (b :: rest))

/-! ## §4. Whole texts. -/

/-- How many levels of sequences and objects a text may open. -/
def depthBound : Nat := 127

/-- Nothing but blanks may follow. -/
def finished (rest : List UInt8) : Except Failure Unit :=
  match skipBlanks rest with
  | [] => .ok ()
  | b :: after => .error (peeked .trailing (b :: after))

/-- What a reader reads from a whole text, its failure placed in the text. -/
def whole {α : Type} (read : Parse α) (text : List UInt8) : Except Error α :=
  match read text with
  | .error f => .error (f.inText text)
  | .ok (x, rest) =>
    match finished rest with
    | .error f => .error (f.inText text)
    | .ok _ => .ok x

/-- **The value of a text.** -/
def parse (text : List UInt8) : Except Error Json := whole (value depthBound) text

end WorkloadIdentity.Json
