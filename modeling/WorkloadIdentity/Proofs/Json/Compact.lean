/-
  WorkloadIdentity.Proofs.Json.Compact ──── **A COMPACT TEXT GIVES ITS VALUE BACK.**

  A strict reader of compact texts: it takes no blanks, keeps the fields of an object as they
  stand, and knows no bound on how deep values are nested.  It is what somebody who receives a
  compact text would write, and says in that way what a compact text is.

  Main results:
    * `Json.Compact.text?_escaped`  — a text comes back from between its quotes
    * `Json.Compact.value?_chars`   — a value is read back, whatever ends it
    * `Json.Compact.read?_render`   — the compact text of a value gives the value
-/
import WorkloadIdentity.Proofs.Json.Numerals

namespace WorkloadIdentity

/-! ## §1. The reader. -/

/-- **A value of the format**: all its numbers are. -/
inductive Json.Proper : Json → Prop where
  /-- The null value. -/
  | null : Json.Proper .null
  /-- Truth values. -/
  | bool (b : Bool) : Json.Proper (.bool b)
  /-- Numbers of the format. -/
  | number {n : Json.Number} (one : n.Proper) : Json.Proper (.number n)
  /-- All texts. -/
  | string (s : String) : Json.Proper (.string s)
  /-- Sequences of such values. -/
  | array {items : List Json} (each : ∀ v ∈ items, Json.Proper v) : Json.Proper (.array items)
  /-- Objects with such values. -/
  | object {fields : List (String × Json)} (each : ∀ f ∈ fields, Json.Proper f.2) :
      Json.Proper (.object fields)

namespace Json.Compact

/-- The value of a hexadecimal digit. -/
def hexDigit? (c : Char) : Option Nat :=
  if '0' ≤ c ∧ c ≤ '9' then some (c.toNat - '0'.toNat)
  else if 'a' ≤ c ∧ c ≤ 'f' then some (c.toNat - 'a'.toNat + 10)
  else if 'A' ≤ c ∧ c ≤ 'F' then some (c.toNat - 'A'.toNat + 10)
  else none

/-- The character of four hexadecimal digits, unless they make a surrogate. -/
def codePoint? (a b c d : Char) : Option Char := do
  let n := (((← hexDigit? a) * 16 + (← hexDigit? b)) * 16 + (← hexDigit? c)) * 16 + (← hexDigit? d)
  if n.isValidChar then some (Char.ofNat n) else none

/-- The character that a letter behind a backslash stands for. -/
def letter? (c : Char) : Option Char :=
  if c = '"' ∨ c = '\\' ∨ c = '/' then some c
  else if c = 'b' then some '\x08'
  else if c = 'f' then some '\x0c'
  else if c = 'n' then some '\n'
  else if c = 'r' then some '\r'
  else if c = 't' then some '\t'
  else none

/-- What a backslash stands for with the characters behind it. -/
def escape? : Reader Char
  | [] => none
  | c :: rest =>
    if c = 'u' then
      match rest with
      | a :: b :: c :: d :: rest => (codePoint? a b c d).map (·, rest)
      | _ => none
    else (letter? c).map (·, rest)

/-- One character of a text; a quote, a backslash and what is below the space stand in no text. -/
def character? : Reader Char
  | [] => none
  | c :: rest =>
    if c = '\\' then escape? rest
    else if c = '"' ∨ c < ' ' then none
    else some (c, rest)

/-- The characters up to the closing quote; the fuel bounds how many they are. -/
def characters? : Nat → Reader (List Char)
  | 0, _ => none
  | fuel + 1, input =>
    if input.head? = some '"' then some ([], input.tail)
    else do
      let (c, rest) ← character? input
      let (cs, rest) ← characters? fuel rest
      some (c :: cs, rest)

/-- A text after its opening quote. -/
def text? : Reader String := fun input => do
  let (cs, rest) ← characters? input.length input
  some (String.ofList cs, rest)

/-- A comma, after which there is more, or the mark that closes. -/
def more? (close : Char) : Reader Bool
  | [] => none
  | c :: rest =>
    if c = ',' then some (true, rest) else if c = close then some (false, rest) else none

/-- Items with commas between them up to the mark that closes; the fuel bounds how many. -/
def items? {α : Type} (item : Reader α) (close : Char) : Nat → Reader (List α)
  | 0, _ => none
  | fuel + 1, input => do
    let (x, rest) ← item input
    let (more, rest) ← more? close rest
    if more then do
      let (xs, rest) ← items? item close fuel rest
      some (x :: xs, rest)
    else some ([x], rest)

/-- Items after the mark that opens, of which there may be none. -/
def enclosed? {α : Type} (item : Reader α) (close : Char) : Reader (List α) := fun input =>
  if input.head? = some close then some ([], input.tail) else items? item close input.length input

/-- A name, a colon and a value. -/
def field? (value : Reader Json) : Reader (String × Json)
  | [] => none
  | c :: rest =>
    if c = '"' then do
      let (name, rest) ← text? rest
      if rest.head? = some ':' then do
        let (v, rest) ← value rest.tail
        some ((name, v), rest)
      else none
    else none

/-- A word that stands for a value. -/
def word? (word : List Char) (v : Json) : Reader Json := fun input =>
  if input.take word.length = word then some (v, input.drop word.length) else none

/-- **A value**; the fuel bounds how deep it is nested. -/
def value? : Nat → Reader Json
  | 0, _ => none
  | _ + 1, [] => none
  | fuel + 1, c :: rest =>
    if c = '"' then (text? rest).map fun r => (.string r.1, r.2)
    else if c = '[' then (enclosed? (value? fuel) ']' rest).map fun r => (.array r.1, r.2)
    else if c = '\x7b' then
      (enclosed? (field? (value? fuel)) '\x7d' rest).map fun r => (.object r.1, r.2)
    else if c = 'n' then word? ['u', 'l', 'l'] .null rest
    else if c = 't' then word? ['r', 'u', 'e'] (.bool true) rest
    else if c = 'f' then word? ['a', 'l', 's', 'e'] (.bool false) rest
    else (number? (c :: rest)).map fun r => (.number r.1, r.2)

/-- **The value of a compact text**, of which nothing may be left. -/
def read? (text : String) : Option Json :=
  match value? text.length text.toList with
  | some (v, []) => some v
  | _ => none

/-! ## §2. Texts come back. -/

/-- Below sixteen a digit is read as what it was written for. -/
theorem hexDigit?_hexDigit : ∀ n < 16, hexDigit? (Text.hexDigit n) = some n := by decide

/-- **Every character comes back from its escape.** -/
theorem character?_escapeChar (c : Char) (rest : List Char) :
    character? (escapeChar c ++ rest) = some (c, rest) := by
  unfold escapeChar
  -- in the order in which the writer looks for them: seven letters, digits, the character itself
  split_ifs with quote slash back feed line carriage tab control
  · rw [quote]
    rfl
  · rw [slash]
    rfl
  · rw [back]
    rfl
  · rw [feed]
    rfl
  · rw [line]
    rfl
  · rw [carriage]
    rfl
  · rw [tab]
    rfl
  · have valid : c.toNat.isValidChar := c.valid
    have parts : ((0 * 16 + 0) * 16 + c.toNat / 16) * 16 + c.toNat % 16 = c.toNat := by omega
    have zero : hexDigit? '0' = some 0 := rfl
    have read : codePoint? '0' '0' (Text.hexDigit (c.toNat / 16)) (Text.hexDigit (c.toNat % 16))
        = some c := by
      unfold codePoint?
      simp only [zero, hexDigit?_hexDigit _ (show c.toNat / 16 < 16 by omega),
        hexDigit?_hexDigit _ (show c.toNat % 16 < 16 by omega), bind, Option.bind]
      rw [parts, if_pos valid, Char.ofNat_toNat]
    show Option.map _ (codePoint? '0' '0' (Text.hexDigit (c.toNat / 16))
      (Text.hexDigit (c.toNat % 16))) = _
    rw [read]
    rfl
  · have shown : ¬ (c = '"' ∨ c < ' ') := by
      rintro (same | below)
      · exact quote same
      · exact control below
    rw [List.cons_append, List.nil_append, character?, if_neg slash, if_neg shown]

/-- There is an escape for every character, and none begins with a quote. -/
theorem head_escapeChar (c : Char) : escapeChar c ≠ [] ∧ (escapeChar c).head? ≠ some '"' := by
  unfold escapeChar
  split_ifs with quote
  case neg => exact ⟨List.cons_ne_nil _ _, fun same => quote (Option.some.inj same)⟩
  all_goals exact ⟨List.cons_ne_nil _ _, fun same => absurd (Option.some.inj same) (by decide)⟩

theorem characters?_escaped (cs rest : List Char) {fuel : Nat} (enough : cs.length < fuel) :
    characters? fuel (cs.flatMap escapeChar ++ '"' :: rest) = some (cs, rest) := by
  induction cs generalizing fuel with
  | nil =>
    cases fuel with
    | zero => exact absurd enough (Nat.not_lt_zero _)
    | succ fuel => rfl
  | cons c cs ih =>
    cases fuel with
    | zero => exact absurd enough (Nat.not_lt_zero _)
    | succ fuel =>
      obtain ⟨some_char, first⟩ := head_escapeChar c
      have later := ih (Nat.lt_of_succ_lt_succ enough)
      rw [List.flatMap_cons, List.append_assoc, characters?,
        List.head?_append_of_ne_nil _ some_char, if_neg first]
      simp only [character?_escapeChar, later, bind, Option.bind]

theorem length_le_escaped (cs : List Char) : cs.length ≤ (cs.flatMap escapeChar).length := by
  induction cs with
  | nil => exact Nat.zero_le _
  | cons c cs ih =>
    have some_char := List.length_pos_of_ne_nil (head_escapeChar c).1
    rw [List.flatMap_cons, List.length_append, List.length_cons]
    omega

/-- **A text comes back from between its quotes.** -/
theorem text?_escaped (s : String) (rest : List Char) :
    text? (s.toList.flatMap escapeChar ++ '"' :: rest) = some (s, rest) := by
  have enough : s.toList.length < (s.toList.flatMap escapeChar ++ '"' :: rest).length := by
    have long := length_le_escaped s.toList
    rw [List.length_append, List.length_cons]
    omega
  unfold text?
  rw [characters?_escaped _ _ enough]
  simp only [bind, Option.bind, String.ofList_toList]

/-! ## §3. Sequences come back. -/

section Sequences

variable {α : Type} {item : Reader α} {written : α → List Char} {close : Char} {xs : List α}

theorem items?_written (ends : continues close = false) (other : close ≠ ',')
    (each : ∀ x ∈ xs, ∀ rest, Ends continues rest → item (written x ++ rest) = some (x, rest))
    (some_item : xs ≠ []) {fuel : Nat} (enough : xs.length ≤ fuel) (rest : List Char) :
    items? item close fuel ([','].intercalate (xs.map written) ++ close :: rest)
      = some (xs, rest) := by
  induction xs generalizing fuel with
  | nil => exact absurd rfl some_item
  | cons x xs ih =>
    cases fuel with
    | zero => exact absurd enough (Nat.not_succ_le_zero _)
    | succ fuel =>
      have first := each x List.mem_cons_self
      -- the last item is followed by the mark, every other by a comma and the rest
      cases xs with
      | nil =>
        have read := first (close :: rest) (ends_cons ends rest)
        have closed : more? close (close :: rest) = some (false, rest) := by
          rw [more?, if_neg other, if_pos rfl]
        rw [items?]
        simp only [List.map_cons, List.map_nil, List.intercalate_singleton, read, closed, bind,
          Option.bind, if_neg Bool.false_ne_true]
      | cons y ys =>
        have later := ih (fun z hz => each z (List.mem_cons_of_mem x hz)) (List.cons_ne_nil _ _)
          (Nat.le_of_succ_le_succ enough)
        have read := first (',' :: ([','].intercalate ((y :: ys).map written) ++ close :: rest))
          (ends_cons (by decide) _)
        have written_cons : [','].intercalate ((x :: y :: ys).map written) ++ close :: rest
            = written x ++ ',' :: ([','].intercalate ((y :: ys).map written) ++ close :: rest) := by
          simp [List.intercalate_cons_cons]
        have comma : more? close (',' :: ([','].intercalate ((y :: ys).map written) ++ close :: rest))
            = some (true, [','].intercalate ((y :: ys).map written) ++ close :: rest) := by
          rw [more?, if_pos rfl]
        rw [written_cons, items?]
        simp only [read, comma, later, bind, Option.bind, if_true]

/-- What is read begins with another character than the mark that closes, since an item is refused
there. -/
theorem head_written (ends : continues close = false) (refused : ∀ rest, item (close :: rest) = none)
    {x : α} (read : ∀ rest, Ends continues rest → item (written x ++ rest) = some (x, rest)) :
    written x ≠ [] ∧ (written x).head? ≠ some close := by
  have closed := read [close] (ends_cons ends [])
  cases shape : written x with
  | nil =>
    rw [shape, List.nil_append, refused] at closed
    cases closed
  | cons c cs =>
    refine ⟨List.cons_ne_nil _ _, fun same => ?_⟩
    rw [shape, Option.some.inj same, List.cons_append, refused] at closed
    cases closed

theorem length_le_intercalate (some_char : ∀ x ∈ xs, written x ≠ []) :
    xs.length ≤ ([','].intercalate (xs.map written)).length := by
  induction xs with
  | nil => exact Nat.zero_le _
  | cons x xs ih =>
    have first := List.length_pos_of_ne_nil (some_char x List.mem_cons_self)
    have later := ih fun y hy => some_char y (List.mem_cons_of_mem x hy)
    cases xs with
    | nil =>
      rw [List.map_singleton, List.intercalate_singleton]
      exact first
    | cons y ys =>
      simp only [List.map_cons, List.intercalate_cons_cons, List.length_append, List.length_cons]
        at later ⊢
      omega

/-- **Items come back from between the marks.** -/
theorem enclosed?_written (ends : continues close = false) (other : close ≠ ',')
    (refused : ∀ rest, item (close :: rest) = none)
    (each : ∀ x ∈ xs, ∀ rest, Ends continues rest → item (written x ++ rest) = some (x, rest))
    (rest : List Char) :
    enclosed? item close ([','].intercalate (xs.map written) ++ close :: rest)
      = some (xs, rest) := by
  have heads : ∀ x ∈ xs, written x ≠ [] ∧ (written x).head? ≠ some close :=
    fun x hx => head_written ends refused (each x hx)
  have enough : xs.length
      ≤ ([','].intercalate (xs.map written) ++ close :: rest).length := by
    have long := length_le_intercalate fun x hx => (heads x hx).1
    rw [List.length_append]
    omega
  unfold enclosed?
  cases xs with
  | nil =>
    rw [List.map_nil, List.intercalate_nil]
    exact if_pos rfl
  | cons x xs =>
    obtain ⟨some_char, first⟩ := heads x List.mem_cons_self
    have head : ([','].intercalate ((x :: xs).map written) ++ close :: rest).head? ≠ some close := by
      cases xs <;> simp [List.intercalate_cons_cons, List.head?_append_of_ne_nil _ some_char, first]
    rw [if_neg head]
    exact items?_written ends other each (List.cons_ne_nil _ _) enough rest

end Sequences

/-! ## §4. Values come back. -/

/-- The characters of a field. -/
def fieldChars (f : String × Json) : List Char := quoted f.1 ++ ':' :: f.2.chars

theorem charsOfItems_eq (vs : List Json) : charsOfItems vs = [','].intercalate (vs.map chars) := by
  induction vs with
  | nil => rfl
  | cons v vs ih =>
    cases vs with
    | nil => rw [charsOfItems, List.map_singleton, List.intercalate_singleton]
    | cons w ws => simp [charsOfItems, ih, List.intercalate_cons_cons]

theorem charsOfFields_eq (fields : List (String × Json)) :
    charsOfFields fields = [','].intercalate (fields.map fieldChars) := by
  induction fields with
  | nil => rfl
  | cons f fields ih =>
    cases fields with
    | nil => rw [charsOfFields, List.map_singleton, List.intercalate_singleton, fieldChars]
    | cons g gs => simp [charsOfFields, ih, List.intercalate_cons_cons, fieldChars]

/-- A part is no longer than what it is part of. -/
theorem length_le_of_mem {α : Type} {written : α → List Char} {xs : List α} {x : α} (h : x ∈ xs) :
    (written x).length ≤ ([','].intercalate (xs.map written)).length := by
  induction xs with
  | nil => cases h
  | cons y ys ih =>
    cases ys with
    | nil =>
      rw [List.mem_singleton.mp h]
      simp
    | cons z zs =>
      simp only [List.map_cons, List.intercalate_cons_cons, List.length_append]
      rcases List.mem_cons.mp h with rfl | later
      · omega
      · have part := ih later
        simp only [List.map_cons] at part
        omega

theorem field?_chars {value : Reader Json} {f : String × Json} {rest : List Char}
    (read : value (f.2.chars ++ rest) = some (f.2, rest)) :
    field? value (fieldChars f ++ rest) = some (f, rest) := by
  have shape : fieldChars f ++ rest
      = '"' :: (f.1.toList.flatMap escapeChar ++ '"' :: ':' :: (f.2.chars ++ rest)) := by
    simp [fieldChars, quoted]
  rw [shape, field?, if_pos rfl]
  simp only [text?_escaped, bind, Option.bind, List.head?_cons, List.tail_cons, if_true, read]

/-- What begins with a sign or a digit is read as a number. -/
theorem value?_number {x : Number} (proper : x.Proper) (fuel : Nat) {rest : List Char}
    (ends : Ends continues rest) :
    value? (fuel + 1) (x.chars ++ rest) = some (.number x, rest) := by
  have read := number?_chars proper ends
  obtain ⟨c, cs, shape, opens⟩ := opens_chars x
  have other : ∀ d : Char, d ≠ '-' → d.isDigit = false → c ≠ d := by
    rintro d sign digit rfl
    rcases opens with same | digit'
    · exact sign same
    · rw [digit] at digit'
      cases digit'
  rw [shape, List.cons_append] at read ⊢
  rw [value?, if_neg (other '"' (by decide) rfl), if_neg (other '[' (by decide) rfl),
    if_neg (other '\x7b' (by decide) rfl), if_neg (other 'n' (by decide) rfl),
    if_neg (other 't' (by decide) rfl), if_neg (other 'f' (by decide) rfl), read]
  rfl

/-- No value begins with the mark that closes a sequence. -/
theorem value?_bracket (fuel : Nat) (rest : List Char) : value? fuel (']' :: rest) = none := by
  cases fuel <;> rfl

theorem chars_ne_nil (v : Json) : v.chars ≠ [] := by
  cases v with
  | number x =>
    obtain ⟨c, cs, shape, -⟩ := opens_chars x
    rw [chars, shape]
    exact List.cons_ne_nil _ _
  | bool b => cases b <;> exact List.cons_ne_nil _ _
  | null | string _ | array _ | object _ => simp [chars, quoted]

/-- **A value is read back**, whatever ends it; the induction is on the fuel, since the parts of a
value are shorter than the value. -/
theorem value?_chars {v : Json} (proper : v.Proper) {fuel : Nat} (enough : v.chars.length ≤ fuel)
    {rest : List Char} (ends : Ends continues rest) :
    value? fuel (v.chars ++ rest) = some (v, rest) := by
  induction fuel generalizing v rest with
  | zero => exact absurd (List.length_eq_zero_iff.mp (Nat.le_zero.mp enough)) (chars_ne_nil v)
  | succ fuel ih =>
    cases proper with
    | null => rfl
    | bool b => cases b <;> rfl
    | number proper => exact value?_number proper fuel ends
    | string s =>
      have shape : chars (.string s) ++ rest
          = '"' :: (s.toList.flatMap escapeChar ++ '"' :: rest) := by simp [chars, quoted]
      rw [shape, value?, if_pos rfl, text?_escaped]
      rfl
    | @array items each =>
      -- an item is shorter than the sequence by its marks
      have shape : chars (.array items) ++ rest
          = '[' :: ([','].intercalate (items.map chars) ++ ']' :: rest) := by
        simp [chars, charsOfItems_eq]
      have parts : ∀ v ∈ items, ∀ rest, Ends continues rest →
          value? fuel (v.chars ++ rest) = some (v, rest) := by
        intro v h rest ends
        have part : v.chars.length ≤ ([','].intercalate (items.map chars)).length :=
          length_le_of_mem h
        rw [chars, charsOfItems_eq, List.length_append, List.length_cons] at enough
        exact ih (each v h) (by omega) ends
      rw [shape, value?, if_neg (by decide), if_pos rfl,
        enclosed?_written (by decide) (by decide) (value?_bracket fuel) parts rest]
      rfl
    | @object fields each =>
      have shape : chars (.object fields) ++ rest
          = '{' :: ([','].intercalate (fields.map fieldChars) ++ '}' :: rest) := by
        simp [chars, charsOfFields_eq]
      have parts : ∀ f ∈ fields, ∀ rest, Ends continues rest →
          field? (value? fuel) (fieldChars f ++ rest) = some (f, rest) := by
        intro f h rest ends
        have part : (fieldChars f).length ≤ ([','].intercalate (fields.map fieldChars)).length :=
          length_le_of_mem h
        rw [chars, charsOfFields_eq, List.length_append, List.length_cons] at enough
        rw [fieldChars, List.length_append, List.length_cons] at part
        exact field?_chars (ih (each f h) (by omega) ends)
      rw [shape, value?, if_neg (by decide), if_neg (by decide), if_pos rfl,
        enclosed?_written (by decide) (by decide) (fun _ => rfl) parts rest]
      rfl

/-- **The compact text of a value gives the value.** -/
theorem read?_render {v : Json} (proper : v.Proper) : read? v.render = some v := by
  have ends : Ends continues [] := nofun
  have read := value?_chars proper (Nat.le_refl _) ends
  rw [List.append_nil] at read
  unfold read? render
  rw [String.length_ofList, String.toList_ofList, read]

example : read? "\x7b\"a\":[0.1,-2]\x7d" = some (.object [("a",
    .array [.number (.float ⟨false, ⟨7205759403792794, -56⟩⟩), .int (-2)])]) := by cbv

/-- A blank stands in no compact text. -/
example : (read? "[0.1, -2]").isNone = true := by decide

end Json.Compact

end WorkloadIdentity
