/-
  WorkloadIdentity.Proofs.Json.Sequences ──── **RECORDS THAT ARE WRITTEN AS SEQUENCES.**

  A record is read from an object, but a sequence of its fields will do as well.  Readers of
  scalars take the same bytes as the reader of any value and keep what the value tells them; so
  whether a sequence is read as a record is a matter of its items, one for each field in order.

  Main results:
    * `ReadsAs`                  — a reader reads exactly the values that a function accepts
    * `TextRecord.readItems_of_items`, `TextRecord.items_of_readItems` — the loop over the fields,
      item by item
    * `TextRecord.Lists.parse_iff` — which texts that begin no object are read as a record
-/
import WorkloadIdentity.Proofs.Json.Passing
import WorkloadIdentity.Proofs.Json.TextRoundTrip

namespace WorkloadIdentity.Json

/-! ## §1. Readers of one value. -/

/-- **A reader reads values**: it succeeds exactly where a value stands of which something is
accepted, takes the bytes of the value, and reads what is accepted of it. -/
def ReadsAs {α : Type} (read : TextReader α) (of : Json → Option α) : Prop :=
  ∀ depth input x rest,
    read depth input = .ok (x, rest) ↔ ∃ v, value depth input = .ok (v, rest) ∧ of v = some x

/-- The text that a value is. -/
def text? : Json → Option String
  | .string s => some s
  | _ => none

/-- The natural number up to a bound that a value is. -/
def naturalUpTo? (bound : Nat) : Json → Option Nat
  | .number (.integer n) => if 0 ≤ n ∧ n ≤ bound then some n.toNat else none
  | _ => none

/-- Nothing if a value is null, and otherwise what it is. -/
def orNull? {α : Type} (of : Json → Option α) : Json → Option (Option α)
  | .null => some none
  | v => (of v).map some

/-- A text is read where a text stands: the first byte decides what the value is. -/
theorem readsAs_string : ReadsAs readString text? := by
  intro depth input s rest
  unfold readString value
  cases skipBlanks input with
  | nil => simp
  | cons b start =>
    -- after any byte but a quote there is no text, whatever the value is
    cases opening : Opening.of b <;> cases depth <;>
      simp [opening, map_eq_ok_iff, text?, ofFields]

theorem toOption_natural? (bound : Nat) (expected : String) (n : Number) :
    (natural? bound expected n).toOption = naturalUpTo? bound (.number n) := by
  cases n with
  | integer n =>
    simp only [natural?, naturalUpTo?]
    split <;> rfl
  | float x => rfl

/-- A natural number is read where a number stands that is one. -/
theorem readsAs_natural (bound : Nat) (expected : String) :
    ReadsAs (readNatural bound expected) (naturalUpTo? bound) := by
  intro depth input k rest
  unfold readNatural value
  cases skipBlanks input with
  | nil => simp
  | cons b start =>
    cases opening : Opening.of b with
    | minus | digit =>
      -- once the number has been read, it is one or it is refused
      simp only [opening]
      generalize numberToken _ _ = token
      rcases token with f | ⟨n, left⟩
      · simp [Except.map]
      · have told := toOption_natural? bound expected n
        cases made : natural? bound expected n with
        | error m =>
          rw [made] at told
          simp [Except.map, made, ← told, Except.toOption]
        | ok k' =>
          rw [made] at told
          simp [Except.map, made, ← told, Except.toOption, and_comm]
    | _ => cases depth <;> simp [opening, map_eq_ok_iff, naturalUpTo?, ofFields]

/-- Blanks before a value are passed over. -/
theorem value_of_found {depth : Nat} {input start : List UInt8} {b : UInt8}
    (found : skipBlanks input = b :: start) : value depth (b :: start) = value depth input := by
  conv_lhs => unfold value
  conv_rhs => unfold value
  rw [skipBlanks_of_found found, found]

theorem value_of_nil {depth : Nat} {input : List UInt8} (found : skipBlanks input = []) :
    value depth input = .error (peeked .endInValue []) := by
  unfold value
  rw [found]

/-- Null is what begins with its first byte. -/
theorem opening_of_null {depth : Nat} {input start rest : List UInt8} {b : UInt8}
    (found : skipBlanks input = b :: start) (h : value depth input = .ok (.null, rest)) :
    Opening.of b = .null := by
  unfold value at h
  rw [found] at h
  cases opening : Opening.of b with
  | null => rfl
  | _ => cases depth <;> simp [opening, map_eq_ok_iff, ofFields] at h

theorem orNull?_of_ne {α : Type} (of : Json → Option α) {v : Json} (solid : v ≠ .null) :
    orNull? of v = (of v).map some := by
  cases v with
  | null => exact absurd rfl solid
  | _ => rfl

/-- **An optional value is read where null stands, or the value.** -/
theorem ReadsAs.optional {α : Type} {read : TextReader α} {of : Json → Option α}
    (h : ReadsAs read of) : ReadsAs (readOptional read) (orNull? of) := by
  intro depth input x rest
  unfold readOptional
  cases found : skipBlanks input with
  | nil =>
    have nothing : ∀ x rest, read depth [] ≠ .ok (x, rest) := by
      intro x rest read
      obtain ⟨v, read, -⟩ := (h _ _ _ _).mp read
      rw [value_of_nil rfl] at read
      cases read
    simp [map_eq_ok_iff, nothing, value_of_nil found]
  | cons b start =>
    dsimp only
    split
    · next opening =>
      have null : value depth input = (ident nullTail start).map fun r => (.null, r) := by
        unfold value
        simp only [found, opening]
      rw [null]
      simp [map_eq_ok_iff, orNull?, and_comm]
    · next opening =>
      -- no null can begin here
      have solid : ∀ v left, value depth input = .ok (v, left) → v ≠ .null := by
        rintro v left read rfl
        exact opening (opening_of_null found read)
      rw [map_eq_ok_iff]
      constructor
      · rintro ⟨⟨y, left⟩, read, same⟩
        cases same
        obtain ⟨v, read, accepted⟩ := (h _ _ _ _).mp read
        rw [value_of_found found] at read
        refine ⟨v, read, ?_⟩
        rw [orNull?_of_ne of (solid v _ read), accepted]
        rfl
      · rintro ⟨v, read, accepted⟩
        rw [orNull?_of_ne of (solid v _ read)] at accepted
        obtain ⟨y, told, rfl⟩ := Option.map_eq_some_iff.mp accepted
        rw [← value_of_found found] at read
        exact ⟨(y, rest), (h _ _ _ _).mpr ⟨v, read, told⟩, rfl⟩

/-! ## §2. Fields. -/

section Fields

variable {σ α : Type}

/-- How a field comes by its value from the items of a sequence. -/
structure Filling (σ : Type) where
  /-- Whether the sequence may end before it. -/
  mayEnd : Bool
  /-- What an item makes of a draft. -/
  fill : σ → Json → Option σ

/-- **A field is filled from values**: it reads what the value gives for the draft. -/
structure TextField.FilledBy (f : TextField σ) (p : Filling σ) : Prop where
  /-- It may be missing at the end alike. -/
  mayEnd : f.mayEnd = p.mayEnd
  /-- It reads values. -/
  reads : ∀ depth s input s' rest, f.read depth s input = .ok (s', rest) ↔
    ∃ v, value depth input = .ok (v, rest) ∧ p.fill s v = some s'

theorem TextField.filledBy_of {name : String} {read : TextReader α} {of : Json → Option α}
    {get : σ → Option α} {put : σ → α → σ} (h : ReadsAs read of) :
    (TextField.of name read get put).FilledBy ⟨false, fun s v => (of v).map (put s)⟩ := by
  refine ⟨rfl, fun depth s input s' rest => ?_⟩
  show (read depth input).map (fun r => (put s r.1, r.2)) = .ok (s', rest) ↔ _
  rw [map_eq_ok_iff]
  constructor
  · rintro ⟨⟨x, left⟩, done, same⟩
    cases same
    obtain ⟨v, read, accepted⟩ := (h _ _ _ _).mp done
    exact ⟨v, read, congrArg (Option.map (put s)) accepted⟩
  · rintro ⟨v, read, accepted⟩
    obtain ⟨x, told, rfl⟩ := Option.map_eq_some_iff.mp accepted
    exact ⟨(x, rest), (h _ _ _ _).mpr ⟨v, read, told⟩, rfl⟩

theorem TextField.FilledBy.orEnd {f : TextField σ} {p : Filling σ} (h : f.FilledBy p) :
    f.orEnd.FilledBy { p with mayEnd := true } := ⟨rfl, h.reads⟩

/-- Fill a draft with the items of a sequence, one for each field that is due. -/
def fillAll : List (Filling σ) → σ → List Json → Option σ
  | [], s, [] => some s
  | [], _, _ :: _ => none
  | p :: due, s, [] => if p.mayEnd then fillAll due s [] else none
  | p :: due, s, v :: vs => (p.fill s v).bind fun s => fillAll due s vs

end Fields

/-! ## §3. The loop over the items. -/

section Loop

variable {α : Type} {item : Parse α} {fuel : Nat} {first : Bool} {input start after : List UInt8}

/-- A sequence is closed by a bracket. -/
theorem closeList_ok_iff : closeList input = .ok after ↔ skipBlanks input = byte ']' :: after := by
  unfold closeList
  constructor
  · intro closed
    split at closed
    · cases closed
    · next b left found =>
      split at closed
      · next bracket =>
        cases closed
        rw [found, bracket]
      · split at closed
        · split at closed
          · split at closed <;> cases closed
          · cases closed
        · cases closed
  · intro found
    rw [found]
    exact if_pos rfl

/-- Where no item follows, the sequence can be closed. -/
theorem closeList_of_end (next : nextItem first input = .ok (false, start)) :
    ∃ after, start = byte ']' :: after ∧ closeList input = .ok after := by
  unfold nextItem at next
  split at next
  · cases next
  · next b left found =>
    split at next
    · next bracket =>
      cases next
      exact ⟨left, by rw [bracket], closeList_ok_iff.mpr (by rw [found, bracket])⟩
    · split at next
      · cases next
      · split at next
        · split at next
          · cases next
          · split at next <;> cases next
        · cases next

/-- Where a sequence can be closed, no item follows. -/
theorem nextItem_of_closeList (closed : closeList input = .ok after) :
    nextItem first input = .ok (false, byte ']' :: after) := by
  unfold nextItem
  rw [closeList_ok_iff.mp closed]
  exact if_pos rfl

/-- A sequence is at its end, or has another item and then goes on. -/
theorem items_cases {xs : List α} (h : items item fuel first input = .ok (xs, after)) :
    (xs = [] ∧ ∃ start, nextItem first input = .ok (false, start) ∧ after = start.drop 1) ∨
      ∃ x more start left fuel', xs = x :: more ∧ nextItem first input = .ok (true, start) ∧
        item start = .ok (x, left) ∧ items item fuel' false left = .ok (more, after) := by
  cases fuel with
  | zero => cases h
  | succ fuel =>
    obtain ⟨⟨follows, start⟩, next, h⟩ := exists_of_bind_ok h
    cases follows with
    | false =>
      cases h
      exact .inl ⟨rfl, start, next, rfl⟩
    | true =>
      obtain ⟨⟨x, left⟩, one, h⟩ := exists_of_bind_ok h
      obtain ⟨⟨more, rest⟩, others, h⟩ := exists_of_bind_ok h
      cases h
      exact .inr ⟨x, more, start, left, fuel, rfl, next, one, others⟩

end Loop

section Records

variable {σ α : Type} {r : TextRecord σ α} {depth : Nat} {fields : List (TextField σ)}
  {due : List (Filling σ)} {input after : List UInt8}

/-- **The items fill the fields that are due**: a draft that they fill is read from their text. -/
theorem TextRecord.readItems_of_items (filled : List.Forall₂ TextField.FilledBy fields due)
    {fuel index : Nat} {first : Bool} {s s' : σ} {vs : List Json}
    (listed : items (value depth) fuel first input = .ok (vs, after))
    (full : fillAll due s vs = some s') :
    ∃ mid, r.readItems depth fields index first s input = .ok (s', mid) ∧
      closeList mid = .ok after := by
  -- along the fields that are due; each takes an item, or leaves the end of the sequence alone
  induction filled generalizing fuel index first s input vs with
  | nil =>
    rcases items_cases listed with ⟨rfl, start, next, rfl⟩ | ⟨v, more, _, _, _, rfl, -⟩
    · obtain ⟨left, rfl, closed⟩ := closeList_of_end next
      cases full
      exact ⟨input, rfl, closed⟩
    · cases full
  | cons mine _ ih =>
    unfold readItems
    rcases items_cases listed with
      ⟨rfl, start, next, rfl⟩ | ⟨v, more, start, left, fuel', rfl, next, one, listed⟩
    · -- the end: the field has to allow it, and the next one stands before the same bracket
      obtain ⟨left, rfl, -⟩ := closeList_of_end next
      simp only [fillAll] at full
      split at full
      · next mayEnd =>
        simp only [next, bind, Except.bind, if_pos (mine.mayEnd.trans mayEnd)]
        exact ih (@items_end _ _ 0 _ _ _ (nextItem_end first left)) full
      · cases full
    · -- an item: the field reads it where the value stands, so both go on at the same byte
      obtain ⟨t, filled, full⟩ := Option.bind_eq_some_iff.mp full
      simp only [next, bind, Except.bind, (mine.reads _ _ _ _ _).mpr ⟨v, one, filled⟩]
      exact ih listed full

/-- **Where the fields that are due have been read, there are items that fill them.** -/
theorem TextRecord.items_of_readItems (filled : List.Forall₂ TextField.FilledBy fields due)
    {fuel index : Nat} {first : Bool} {s s' : σ} {mid : List UInt8} (enough : input.length < fuel)
    (read : r.readItems depth fields index first s input = .ok (s', mid))
    (closed : closeList mid = .ok after) :
    ∃ vs, items (value depth) fuel first input = .ok (vs, after) ∧ fillAll due s vs = some s' := by
  -- every item takes a byte, and so the fuel lasts
  induction filled generalizing fuel index first s input with
  | nil =>
    cases read
    obtain ⟨fuel, rfl⟩ := Nat.exists_eq_succ_of_ne_zero (Nat.ne_of_gt (Nat.zero_lt_of_lt enough))
    exact ⟨[], items_end (nextItem_of_closeList closed), rfl⟩
  | cons mine _ ih =>
    unfold readItems at read
    obtain ⟨⟨follows, start⟩, next, read⟩ := exists_of_bind_ok read
    have shorter := nextItem_takes first _ _ _ next
    obtain ⟨fuel, rfl⟩ := Nat.exists_eq_succ_of_ne_zero (Nat.ne_of_gt (Nat.zero_lt_of_lt enough))
    cases follows with
    | false =>
      dsimp only at read
      split at read
      · next mayEnd =>
        -- the fields that are left have been read at the end too, so no item fills them
        obtain ⟨vs, listed, full⟩ := ih (Nat.lt_of_le_of_lt shorter enough) read
        obtain ⟨left, rfl, -⟩ := closeList_of_end next
        rw [items_end (nextItem_end first left)] at listed
        cases listed
        exact ⟨[], items_end next, by rw [fillAll, if_pos (mine.mayEnd.symm.trans mayEnd), full]⟩
      · cases read
    | true =>
      obtain ⟨⟨t, left⟩, one, read⟩ := exists_of_bind_ok read
      obtain ⟨v, stands, filled⟩ := (mine.reads _ _ _ _ _).mp one
      have taken := length_lt_of_value stands
      have lasting : left.length < fuel := by omega
      obtain ⟨vs, listed, full⟩ := ih lasting read
      exact ⟨v :: vs, items_item next stands listed, by rw [fillAll, filled]; exact full⟩

/-- A record that is read from a sequence, step by step. -/
theorem TextRecord.read_bracket_iff {x : α} {start : List UInt8} {b : UInt8}
    (found : skipBlanks input = b :: start) (bracket : Opening.of b = .bracket) :
    r.read (depth + 1) input = .ok (x, after) ↔
      ∃ s mid, r.readItems depth r.fields 0 true r.blank start = .ok (s, mid) ∧
        r.finish s = .ok x ∧ closeList mid = .ok after := by
  unfold read
  simp only [found, bracket]
  constructor
  · intro h
    obtain ⟨⟨s, mid⟩, items, h⟩ := exists_of_bind_ok h
    dsimp only at h
    split at h
    · cases h
    · next y done =>
      obtain ⟨left, closed, same⟩ := exists_of_bind_ok h
      cases same
      exact ⟨s, mid, items, done, closed⟩
  · rintro ⟨s, mid, items, done, closed⟩
    simp only [items, bind, Except.bind, done, closed]

/-! ## §4. Where no object begins. -/

/-- No object begins here. -/
def NoObject (input : List UInt8) : Prop := (skipBlanks input).head? ≠ some (byte '\x7b')

/-- One byte opens a sequence, and one an object. -/
theorem byte_of_opening {b : UInt8} :
    (Opening.of b = .bracket → b = byte '[') ∧ (Opening.of b = .brace → b = byte '\x7b') := by
  unfold Opening.of
  constructor <;> intro h <;> split_ifs at h <;> assumption

/-- A record that is read where no object begins is read from a sequence. -/
theorem TextRecord.bracket_of_read {x : α} (other : NoObject input)
    (h : r.read depth input = .ok (x, after)) :
    ∃ b start d, skipBlanks input = b :: start ∧ Opening.of b = .bracket ∧ depth = d + 1 := by
  obtain ⟨d, b, start, s, left, rfl, found, -, opens⟩ := read_cases h
  rcases opens with ⟨bracket, -⟩ | ⟨brace, -⟩
  · exact ⟨b, start, d, found, bracket, rfl⟩
  · exact absurd (by rw [found, byte_of_opening.2 brace]; rfl) other

/-- A record that is read stands where an item of a sequence can begin. -/
theorem TextRecord.nextItem_of_read {x : α} (h : r.read depth input = .ok (x, after)) :
    nextItem true input = .ok (true, skipBlanks input) := by
  obtain ⟨_, b, start, _, _, -, found, -, opens⟩ := TextRecord.read_cases h
  have other : b ≠ byte ']' := by
    rintro rfl
    rcases opens with ⟨wrong, -⟩ | ⟨wrong, -⟩ <;> cases wrong
  unfold nextItem
  rw [found]
  exact (if_neg other).trans (if_pos rfl)

theorem TextRecord.read_skipBlanks (r : TextRecord σ α) (depth : Nat) (input : List UInt8) :
    r.read depth (skipBlanks input) = r.read depth input := by
  have twice : skipBlanks (skipBlanks input) = skipBlanks input := List.dropWhile_idempotent _ _
  unfold read
  rw [twice]

/-- An item that begins is what is left of a sequence after blanks. -/
theorem eq_of_nextItem (next : nextItem true input = .ok (true, start)) :
    start = skipBlanks input := by
  unfold nextItem at next
  split at next
  · cases next
  · next found =>
    split at next
    · cases next
    · cases next
      exact found.symm

/-- A sequence that is read begins with a bracket. -/
theorem bracket_of_array {vs : List Json} (h : value depth input = .ok (.array vs, after)) :
    ∃ b start d, skipBlanks input = b :: start ∧ Opening.of b = .bracket ∧ depth = d + 1 := by
  unfold value at h
  split at h
  · cases h
  · next b start found =>
    split at h
    -- all other openings lead to values of another kind
    case h_9 => exact ⟨b, start, _, found, ‹_›, rfl⟩
    all_goals first
      | cases h
      | (obtain ⟨_, -, same⟩ := exists_of_map_ok h
         cases same)

theorem value_bracket_iff {vs : List Json} {start : List UInt8} {b : UInt8}
    (found : skipBlanks input = b :: start) (bracket : Opening.of b = .bracket) :
    value (depth + 1) input = .ok (.array vs, after) ↔
      items (value depth) (start.length + 1) true start = .ok (vs, after) := by
  unfold value
  simp only [found, bracket]
  rw [map_eq_ok_iff]
  constructor
  · rintro ⟨⟨ws, left⟩, listed, same⟩
    cases same
    exact listed
  · exact fun listed => ⟨_, listed, rfl⟩

/-- A record reads sequences: where no object begins, it is read exactly where a sequence stands
whose items make up a record. -/
def TextRecord.Lists (r : TextRecord σ α) (of : List Json → Option α) : Prop :=
  ∀ {depth input x after}, NoObject input → (r.read depth input = .ok (x, after) ↔
    ∃ vs, value depth input = .ok (.array vs, after) ∧ of vs = some x)

/-- **A record reads the sequences of its fields.** -/
theorem TextRecord.lists {of : List Json → Option α}
    (filled : List.Forall₂ TextField.FilledBy r.fields due)
    (made : ∀ vs, of vs = (fillAll due r.blank vs).bind fun s => (r.finish s).toOption) :
    r.Lists of := by
  intro depth input x after other
  have made : ∀ vs, of vs = some x ↔ ∃ s, fillAll due r.blank vs = some s ∧ r.finish s = .ok x := by
    intro vs
    rw [made, Option.bind_eq_some_iff]
    simp only [toOption_eq_some_iff]
  constructor
  · intro read
    obtain ⟨b, start, d, found, bracket, rfl⟩ := bracket_of_read other read
    obtain ⟨s, mid, read, done, closed⟩ := (read_bracket_iff found bracket).mp read
    obtain ⟨vs, listed, full⟩ := items_of_readItems filled (Nat.lt_succ_self _) read closed
    exact ⟨vs, (value_bracket_iff found bracket).mpr listed, (made vs).mpr ⟨s, full, done⟩⟩
  · rintro ⟨vs, stands, told⟩
    obtain ⟨b, start, d, found, bracket, rfl⟩ := bracket_of_array stands
    obtain ⟨s, full, done⟩ := (made vs).mp told
    obtain ⟨mid, read, closed⟩ :=
      readItems_of_items filled ((value_bracket_iff found bracket).mp stands) full
    exact (read_bracket_iff found bracket).mpr ⟨s, mid, read, done, closed⟩

/-! ## §5. Whole texts. -/

/-- The text of a value that is no object begins no object. -/
theorem noObject_of_parse {text : List UInt8} {v : Json} (parsed : Json.parse text = .ok v)
    (other : ∀ fields, v ≠ .object fields) : NoObject text := by
  intro brace
  obtain ⟨rest, read, -⟩ := whole_ok_iff.mp parsed
  unfold value at read
  split at read
  · cases read
  · next b start found =>
    rw [found] at brace
    cases brace
    obtain ⟨⟨fields, left⟩, -, same⟩ := exists_of_map_ok read
    cases same
    exact other _ rfl

/-- **A text that begins no object is read as a record exactly if its value is a sequence whose
items make up the record.** -/
theorem TextRecord.Lists.parse_iff {of : List Json → Option α}
    (lists : r.Lists of) {body : List UInt8} {x : α} (other : NoObject body) :
    r.parse body = .ok x ↔ ∃ vs, Json.parse body = .ok (.array vs) ∧ of vs = some x := by
  unfold TextRecord.parse Json.parse
  simp only [whole_ok_iff, lists other]
  constructor
  · rintro ⟨rest, ⟨vs, stands, told⟩, finished⟩
    exact ⟨vs, ⟨rest, stands, finished⟩, told⟩
  · rintro ⟨vs, ⟨rest, stands, finished⟩, told⟩
    exact ⟨rest, ⟨vs, stands, told⟩, finished⟩

/-- A body is a sequence whose items make up a record. -/
def Listing {α : Type} (of : List Json → Option α) (body : List UInt8) : Prop :=
  ∃ vs, Json.parse body = .ok (.array vs) ∧ (of vs).isSome = true

theorem listing_iff {of : List Json → Option α}
    (lists : r.Lists of) {body : List UInt8} (other : NoObject body) :
    Listing of body ↔ ∃ x, r.parse body = .ok x := by
  simp only [lists.parse_iff other, Listing, Option.isSome_iff_exists]
  exact ⟨fun ⟨vs, parsed, x, told⟩ => ⟨x, vs, parsed, told⟩,
    fun ⟨x, vs, parsed, told⟩ => ⟨vs, parsed, x, told⟩⟩

end Records

end WorkloadIdentity.Json
