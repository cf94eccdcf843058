/-
  WorkloadIdentity.Json.Value ──── **JSON VALUES.**

  The fields of an object are kept in ascending order of their names, each name once.

  ✓ `Json`          — the values
  ✓ `Fields.insert` — the later of two fields of one name wins
  ✓ `Json.field?`   — a field of an object
-/
import WorkloadIdentity.Decimal.Binary64

namespace WorkloadIdentity

/-! ## §1. Numbers. -/

/-- A number: an integer of a signed or unsigned 64-bit word, or a floating point number. -/
inductive Json.Number where
  /-- An integer. -/
  | integer (n : Int)
  /-- A number with a fraction or an exponent, or an integer that fits no word. -/
  | float (x : Binary64)
  deriving DecidableEq

/-! ## §2. Values. -/

/-- A JSON value. -/
inductive Json where
  /-- The null value. -/
  | null
  /-- A truth value. -/
  | bool (b : Bool)
  /-- A number. -/
  | number (n : Json.Number)
  /-- A text. -/
  | string (s : String)
  /-- A sequence of values. -/
  | array (items : List Json)
  /-- Named fields. -/
  | object (fields : List (String × Json))

/-- An integer as a value. -/
def Json.int (n : Int) : Json := .number (.integer n)

/-! ## §3. Fields. -/

/-- Put a field in its place; a field of the same name is replaced. -/
def Fields.insert (name : String) (v : Json) : List (String × Json) → List (String × Json)
  | [] => [(name, v)]
  | (n, w) :: rest =>
    if name < n then (name, v) :: (n, w) :: rest
    else if name = n then (name, v) :: rest
    else (n, w) :: Fields.insert name v rest

/-- The fields of a list in which later fields of a name win. -/
def Fields.ofList (fields : List (String × Json)) : List (String × Json) :=
  fields.foldl (fun acc f => Fields.insert f.1 f.2 acc) []

/-- The object of some fields. -/
def Json.ofFields (fields : List (String × Json)) : Json := .object (Fields.ofList fields)

/-- The field of a name; only objects have fields. -/
def Json.field? (name : String) : Json → Option Json
  | .object fields => (fields.find? (·.1 == name)).map (·.2)
  | _ => none

end WorkloadIdentity
