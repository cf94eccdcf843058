/-
  WorkloadIdentity.Http.Headers ──── **HEADERS: AN ORDERED COLLECTION WITH REPEATED NAMES.**

  Names are lower-case tokens; values are bytes without control characters except the tab.
  **RULE**: `insert` leaves exactly one value for its name, `append` adds one, and `insertNew` adds one
  only where there was none.

  ✓ `HeaderName.ofString?`, `HeaderValue.ofString?` — the only ways from text to a header
  ✓ `Headers.values` — the view: the values of a name, in order
  ✓ `Headers.values_insert`, `Headers.values_append` — what the operations do to it
-/
import WorkloadIdentity.Text.Utf8

namespace WorkloadIdentity

/-! ## §1. Names. -/

/-- Whether a byte may stand in a name. -/
def HeaderName.isToken (b : UInt8) : Bool :=
  (48 ≤ b && b ≤ 57) || (65 ≤ b && b ≤ 90) || (97 ≤ b && b ≤ 122) ||
    [33, 35, 36, 37, 38, 39, 42, 43, 45, 46, 94, 95, 96, 124, 126].contains b

/-- The longest name. -/
def HeaderName.maxLength : Nat := 65535

/-- A letter in lower case. -/
def HeaderName.lower (c : Char) : Char := if 'A' ≤ c ∧ c ≤ 'Z' then Char.ofNat (c.toNat + 32) else c

/-- A name in lower case, if the text is a name. -/
def HeaderName.ofString? (s : String) : Option String :=
  let bytes := Utf8.encode s
  if bytes ≠ [] ∧ bytes.length ≤ HeaderName.maxLength ∧ bytes.all HeaderName.isToken then
    some (String.ofList (s.toList.map HeaderName.lower))
  else none

/-! ## §2. Values. -/

/-- Whether a byte may stand in a value. -/
def HeaderValue.isAllowed (b : UInt8) : Bool := b == 9 || (32 ≤ b && b != 127)

/-- A value.  A sensitive value is not to be shown. -/
structure HeaderValue where
  /-- Its bytes. -/
  bytes : List UInt8
  /-- Whether it is sensitive. -/
  sensitive : Bool
  deriving DecidableEq

/-- The value with the bytes of a text, if they are all allowed. -/
def HeaderValue.ofString? (s : String) : Option HeaderValue :=
  let bytes := Utf8.encode s
  if bytes.all HeaderValue.isAllowed then some ⟨bytes, false⟩ else none

/-- The same value, not to be shown. -/
def HeaderValue.hidden (v : HeaderValue) : HeaderValue := { v with sensitive := true }

/-- The value as a text. -/
def HeaderValue.text (v : HeaderValue) : String := Utf8.decodeLossy v.bytes

/-! ## §3. Collections. -/

/-- **Headers**: pairs of a name in lower case and a value, in order. -/
structure Headers where
  /-- The pairs. -/
  toList : List (String × HeaderValue)
  deriving DecidableEq

/-- No headers. -/
def Headers.empty : Headers := ⟨[]⟩

/-- The values of a name, in order. -/
def Headers.values (h : Headers) (name : String) : List HeaderValue :=
  (h.toList.filter (·.1 == name)).map (·.2)

/-- Whether there is a header of a name. -/
def Headers.contains (h : Headers) (name : String) : Bool := h.toList.any (·.1 == name)

/-- Add a value after all others. -/
def Headers.append (h : Headers) (name : String) (v : HeaderValue) : Headers :=
  ⟨h.toList ++ [(name, v)]⟩

/-- Make a value the only one of its name, in the place of the first if there was one. -/
def Headers.insert (h : Headers) (name : String) (v : HeaderValue) : Headers :=
  ⟨place h.toList⟩
where
  /-- The pairs with the value in place. -/
  place : List (String × HeaderValue) → List (String × HeaderValue)
    | [] => [(name, v)]
    | (n, w) :: rest =>
      if n = name then (name, v) :: rest.filter (·.1 != name) else (n, w) :: place rest

/-- Add a header only if its name is new. -/
def Headers.insertNew (h : Headers) (name : String) (v : HeaderValue) : Headers :=
  if h.contains name then h else h.append name v

/-! ## §4. What each operation does to the values. -/

/-- A new value stands last among the values of its name. -/
theorem Headers.values_append (h : Headers) (name other : String) (v : HeaderValue) :
    (h.append name v).values other =
      if other = name then h.values other ++ [v] else h.values other := by
  by_cases hn : other = name
  · simp [append, values, hn]
  · simp [append, values, hn, Ne.symm hn]

/-- An inserted value is the only one of its name, and no other name is touched. -/
theorem Headers.values_insert (h : Headers) (name other : String) (v : HeaderValue) :
    (h.insert name v).values other = if other = name then [v] else h.values other := by
  obtain ⟨pairs⟩ := h
  simp only [values, insert]
  induction pairs with
  | nil =>
    by_cases hn : other = name
    · simp [insert.place, hn]
    · simp [insert.place, hn, Ne.symm hn]
  | cons p rest ih =>
    obtain ⟨n, w⟩ := p
    by_cases hp : n = name
    · subst hp
      by_cases hn : other = n
      · subst hn
        simp [insert.place, List.filter_filter]
      · simp [insert.place, hn, Ne.symm hn, List.filter_filter]
        congr 1
        apply List.filter_congr
        intro x _
        by_cases hx : x.1 = other <;> simp [hx, hn]
    · by_cases hn : n = other
      · subst hn
        simp [insert.place, hp, ih]
      · simp only [insert.place, hp, if_false, List.filter_cons, beq_iff_eq, hn]
        exact ih

/-- A header that is added only if it is new is there afterwards. -/
theorem Headers.values_insertNew (h : Headers) (name other : String) (v : HeaderValue) :
    (h.insertNew name v).values other =
      if other = name ∧ h.contains name = false then h.values other ++ [v]
      else h.values other := by
  by_cases hc : h.contains name = true
  · simp [insertNew, hc]
  · simp [insertNew, hc, values_append]

end WorkloadIdentity
