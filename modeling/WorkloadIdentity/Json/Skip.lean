/-
  WorkloadIdentity.Json.Skip ──── **PASSING OVER A VALUE NOBODY ASKED FOR.**

  A value that is skipped is checked for its grammar only: the range of numbers, surrogates,
  UTF-8 and depth are not looked at.  **RULE**: the open brackets are a stack, so depth costs
  nothing; after a comma a value (or a name) must follow, whatever closes next.

  ✓ `skipString`, `skipNumber` — the scalars
  ✓ `skip`                     — a whole value
-/
import WorkloadIdentity.Json.Lexer

namespace WorkloadIdentity.Json

/-! ## §1. Texts. -/

/-- Where the skipper of a text stands. -/
inductive SkipState where
  /-- Between characters. -/
  | plain
  /-- After a backslash. -/
  | escape
  /-- In an escape of four digits. -/
  | hex (seen : List UInt8)

/-- Whether a letter makes an escape on its own. -/
def isShortEscape (b : UInt8) : Bool := (escaped? b).isSome

/-- The rest after a text whose opening quote has been taken. -/
def skipString (state : SkipState) : List UInt8 → Except Failure (List UInt8)
  | [] => .error (taken .endInString [])
  | b :: rest =>
    match state with
    | .plain =>
      if b = byte '"' then .ok rest
      else if b = byte '\\' then skipString .escape rest
      else if b < 32 then .error (taken .control (b :: rest))
      else skipString .plain rest
    | .escape =>
      if b = byte 'u' then skipString (.hex []) rest
      else if isShortEscape b then skipString .plain rest
      else .error (taken .escape rest)
    | .hex seen =>
      if seen.length < 3 then skipString (.hex (seen ++ [b])) rest
      else match fourDigits? (seen ++ [b]) with
        | none => .error (taken .escape rest)
        | some _ => skipString .plain rest

/-! ## §2. Numbers. -/

/-- The rest after an exponent whose letter has been taken. -/
def skipExponent (input : List UInt8) : Except Failure (List UInt8) :=
  let unsigned := match input with
    | b :: rest => if b = byte '+' ∨ b = byte '-' then rest else input
    | [] => []
  match unsigned with
  | [] => .error (taken .number [])
  | b :: rest =>
    if Text.isDigit b then .ok (rest.dropWhile Text.isDigit) else .error (taken .number rest)

/-- The rest after an exponent, if one follows. -/
def skipOptionalExponent (input : List UInt8) : Except Failure (List UInt8) :=
  match input with
  | b :: rest => if isExponentMark b then skipExponent rest else .ok input
  | [] => .ok []

/-- The rest after a fraction whose point has been taken. -/
def skipFraction (input : List UInt8) : Except Failure (List UInt8) :=
  match input with
  | b :: rest =>
    if Text.isDigit b then skipOptionalExponent (rest.dropWhile Text.isDigit)
    else .error (peeked .number input)
  | [] => .error (peeked .number [])

/-- The rest after a number whose sign has been taken. -/
def skipNumber (input : List UInt8) : Except Failure (List UInt8) :=
  match input with
  | [] => .error (taken .number [])
  | b :: rest =>
    match Text.digitValue? b, rest with
    | none, _ => .error (taken .number rest)
    | some 0, c :: after =>
      if Text.isDigit c then .error (peeked .number (c :: after)) else tail (c :: after)
    | some 0, [] => .ok []
    | some _, _ => tail (rest.dropWhile Text.isDigit)
where
  /-- What may follow the integer digits. -/
  tail (input : List UInt8) : Except Failure (List UInt8) :=
    match input with
    | b :: rest => if b = byte '.' then skipFraction rest else skipOptionalExponent input
    | [] => .ok []

/-! ## §3. Values. -/

/-- What is open. -/
inductive Bracket where
  /-- A sequence. -/
  | list
  /-- An object. -/
  | object
  deriving DecidableEq

/-- The byte that closes it. -/
def Bracket.close : Bracket → UInt8
  | .list => byte ']'
  | .object => byte '\x7d'

/-- The fault of a text that ends inside it. -/
def Bracket.atEnd : Bracket → Malformed
  | .list => .endInList
  | .object => .endInObject

/-- The fault of something after an item of it that is neither a comma nor its end. -/
def Bracket.noComma : Bracket → Malformed
  | .list => .commaOrBracket
  | .object => .commaOrBrace

/-- What the skipper expects next. -/
inductive Expecting where
  /-- A value, or the name before it if an object is open. -/
  | value
  /-- A value; its name has been read. -/
  | named
  /-- The first item of what has just been opened, or its end. -/
  | firstItem
  /-- A comma, or the end of what is open. -/
  | comma

/-- The rest after a name and its colon. -/
def skipName (input : List UInt8) : Except Failure (List UInt8) :=
  match skipBlanks input with
  | [] => .error (peeked .endInObject [])
  | b :: rest =>
    if b = byte '"' then do
      let rest ← skipString .plain rest
      match skipBlanks rest with
      | [] => .error (peeked .endInObject [])
      | c :: after => if c = byte ':' then .ok after else .error (peeked .colon (c :: after))
    else .error (peeked .key (b :: rest))

/-- The rest after a scalar, or what has been opened and the rest after its bracket. -/
def skipToken (input : List UInt8) : Except Failure (Option Bracket × List UInt8) :=
  match skipBlanks input with
  | [] => .error (peeked .endInValue [])
  | b :: rest =>
    match Opening.of b with
    | .null => (ident nullTail rest).map fun r => (none, r)
    | .yes => (ident trueTail rest).map fun r => (none, r)
    | .no => (ident falseTail rest).map fun r => (none, r)
    | .minus => (skipNumber rest).map fun r => (none, r)
    | .digit => (skipNumber (b :: rest)).map fun r => (none, r)
    | .quote => (skipString .plain rest).map fun r => (none, r)
    | .bracket => .ok (some .list, rest)
    | .brace => .ok (some .object, rest)
    | .other => .error (peeked .value (b :: rest))

/-- The rest after the value at the head, with brackets open.  The fuel counts steps; three for each
byte suffice. -/
def skipFrom : Nat → List Bracket → Expecting → List UInt8 → Except Failure (List UInt8)
  | 0, _, _, rest => .ok rest
  | _ + 1, [], .comma, rest => .ok rest
  | fuel + 1, .object :: stack, .value, rest => do
    skipFrom fuel (.object :: stack) .named (← skipName rest)
  | fuel + 1, frame :: stack, .comma, rest =>
    match skipBlanks rest with
    | [] => .error (peeked frame.atEnd [])
    | b :: after =>
      if b = byte ',' then skipFrom fuel (frame :: stack) .value after
      else if b = frame.close then skipFrom fuel stack .comma after
      else .error (peeked frame.noComma (b :: after))
  | fuel + 1, frame :: stack, .firstItem, rest =>
    match skipBlanks rest with
    | [] => .error (peeked frame.atEnd [])
    | b :: after =>
      if b = frame.close then skipFrom fuel stack .comma after
      else skipFrom fuel (frame :: stack) .value (b :: after)
  | fuel + 1, stack, _, rest => do
    match ← skipToken rest with
    | (none, rest) => skipFrom fuel stack .comma rest
    | (some frame, rest) => skipFrom fuel (frame :: stack) .firstItem rest

/-- **The rest after a value of any shape.** -/
def skip (input : List UInt8) : Except Failure (List UInt8) :=
  skipFrom (3 * input.length + 3) [] .value input

end WorkloadIdentity.Json
