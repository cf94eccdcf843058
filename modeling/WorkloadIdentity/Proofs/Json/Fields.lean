/-
  WorkloadIdentity.Proofs.Json.Fields ──── **RECORDS IN A VALUE, NAME BY NAME.**

  A record is read from the fields of an object as they come, and from a sequence item by item.
  Where the names of an object differ, which they do in every value that a text gives, neither
  matters: whether a record can be read, and what it then shows, is told by what stands under each
  of its names.

  Main results:
    * `Json.Hereditary.of_parse`  — what holds of a value through its parts holds of all that is read
    * `Json.distinct_of_parse`    — names differ in every object that is read from a text
    * `ValueRecord.read_eq`       — a sequence is read like the object of its items
    * `ValueRecord.isOk_read`     — a record can be read exactly if it fits
    * `ValueRecord.Shows.of_read` — what it shows is what stands under the name
    * `ValueRecord.Shows.cases_of_read` — of which there is nothing, or it could be read
-/
import WorkloadIdentity.Json.Record
import Mathlib.Data.List.Nodup
import Mathlib.Data.String.Basic

namespace WorkloadIdentity

/-! ## §1. Steps that succeed. -/

/-- A result that went through two steps went through the first. -/
theorem exists_of_bind_ok {ε α β : Type} {x : Except ε α} {f : α → Except ε β} {b : β}
    (h : (x >>= f) = .ok b) : ∃ a, x = .ok a ∧ f a = .ok b := by
  cases x with
  | error e => cases h
  | ok a => exact ⟨a, rfl, h⟩

theorem exists_of_map_ok {ε α β : Type} {x : Except ε α} {f : α → β} {b : β}
    (h : x.map f = .ok b) : ∃ a, x = .ok a ∧ f a = b := by
  cases x with
  | error e => cases h
  | ok a => exact ⟨a, rfl, Except.ok.inj h⟩

theorem map_eq_ok_iff {ε α β : Type} {x : Except ε α} {f : α → β} {b : β} :
    x.map f = .ok b ↔ ∃ a, x = .ok a ∧ f a = b := by
  cases x with
  | error e => simp [Except.map]
  | ok a => simp [Except.map]

theorem toOption_eq_some_iff {ε β : Type} {x : Except ε β} {b : β} :
    x.toOption = some b ↔ x = .ok b := by
  cases x <;> simp [Except.toOption]

theorem isOk_map {ε α β : Type} (x : Except ε α) (f : α → β) : (x.map f).isOk = x.isOk := by
  cases x <;> rfl

/-! ## §2. Names that differ. -/

/-- The names in every object of a value differ. -/
inductive Json.Distinct : Json → Prop where
  /-- The null value. -/
  | null : Distinct .null
  /-- A truth value. -/
  | bool (b : Bool) : Distinct (.bool b)
  /-- A number. -/
  | number (n : Json.Number) : Distinct (.number n)
  /-- A text. -/
  | string (s : String) : Distinct (.string s)
  /-- A sequence. -/
  | array {items : List Json} (each : ∀ v ∈ items, Distinct v) : Distinct (.array items)
  /-- An object. -/
  | object {fields : List (String × Json)} (names : (fields.map (·.1)).Nodup)
      (each : ∀ f ∈ fields, Distinct f.2) : Distinct (.object fields)

namespace Fields

variable {fields : List (String × Json)} {name : String} {v : Json}

theorem mem_insert {f : String × Json} (h : f ∈ insert name v fields) :
    f = (name, v) ∨ f ∈ fields := by
  induction fields with
  | nil => exact .inl (List.mem_singleton.mp h)
  | cons g rest ih =>
    unfold insert at h
    split at h
    · exact List.mem_cons.mp h
    · split at h
      · exact (List.mem_cons.mp h).imp_right (List.mem_cons_of_mem g)
      · rcases List.mem_cons.mp h with rfl | h
        · exact .inr List.mem_cons_self
        · exact (ih h).imp_right (List.mem_cons_of_mem g)

/-- Fields in ascending order stay so. -/
theorem ascending_insert (name : String) (v : Json)
    (ascending : fields.Pairwise fun f g => f.1 < g.1) :
    (insert name v fields).Pairwise fun f g => f.1 < g.1 := by
  induction fields with
  | nil => exact List.pairwise_singleton _ _
  | cons g rest ih =>
    obtain ⟨first, ascending⟩ := List.pairwise_cons.mp ascending
    unfold insert
    split
    case isTrue before =>
      refine List.pairwise_cons.mpr ⟨fun f hf => ?_, List.pairwise_cons.mpr ⟨first, ascending⟩⟩
      rcases List.mem_cons.mp hf with rfl | hf
      · exact before
      · exact lt_trans before (first f hf)
    case isFalse after =>
      split
      case isTrue same =>
        subst same
        exact List.pairwise_cons.mpr ⟨first, ascending⟩
      case isFalse other =>
        refine List.pairwise_cons.mpr ⟨fun f hf => ?_, ih ascending⟩
        rcases mem_insert hf with rfl | hf
        · exact lt_of_le_of_ne (not_lt.mp after) (Ne.symm other)
        · exact first f hf

/-- Putting fields in one after another keeps them in ascending order, and adds nothing else. -/
theorem ascending_foldl (more : List (String × Json))
    (ascending : fields.Pairwise fun f g => f.1 < g.1) :
    (more.foldl (fun acc f => insert f.1 f.2 acc) fields).Pairwise (fun f g => f.1 < g.1) ∧
    ∀ f ∈ more.foldl (fun acc f => insert f.1 f.2 acc) fields, f ∈ fields ∨ f ∈ more := by
  induction more generalizing fields with
  | nil => exact ⟨ascending, fun f hf => .inl hf⟩
  | cons g rest ih =>
    obtain ⟨ascending, known⟩ := ih (ascending_insert g.1 g.2 ascending)
    refine ⟨ascending, fun f hf => ?_⟩
    rcases known f hf with h | h
    · rcases mem_insert h with rfl | h
      · exact .inr List.mem_cons_self
      · exact .inl h
    · exact .inr (List.mem_cons_of_mem g h)

end Fields

namespace Json

theorem distinct_ofFields {fields : List (String × Json)} (each : ∀ f ∈ fields, Distinct f.2) :
    Distinct (.ofFields fields) := by
  obtain ⟨ascending, known⟩ := Fields.ascending_foldl fields List.Pairwise.nil
  refine .object ?_ fun f hf => ?_
  · exact List.pairwise_map.mpr (ascending.imp fun below => ne_of_lt below)
  · rcases known f hf with h | h
    · cases h
    · exact each f h

section Parsing

variable {α : Type} {P : α → Prop} {item : Parse α} {fuel : Nat} {first : Bool}
  {input rest : List UInt8}

/-- What holds of everything that is read as an item holds of the items of a sequence. -/
theorem items_all (good : ∀ {input x rest}, item input = .ok (x, rest) → P x) {xs : List α}
    (h : items item fuel first input = .ok (xs, rest)) : ∀ x ∈ xs, P x := by
  induction fuel generalizing first input xs rest with
  | zero => cases h
  | succ fuel ih =>
    obtain ⟨⟨more, left⟩, -, h⟩ := exists_of_bind_ok h
    cases more with
    | false =>
      cases h
      exact fun x hx => by cases hx
    | true =>
      obtain ⟨⟨y, left⟩, one, h⟩ := exists_of_bind_ok h
      obtain ⟨⟨ys, left⟩, others, h⟩ := exists_of_bind_ok h
      cases h
      intro x hx
      rcases List.mem_cons.mp hx with rfl | hx
      · exact good one
      · exact ih others x hx

/-- It holds of the values in an object. -/
theorem members_all (good : ∀ {input x rest}, item input = .ok (x, rest) → P x)
    {fields : List (String × α)} (h : members item fuel first input = .ok (fields, rest)) :
    ∀ f ∈ fields, P f.2 := by
  induction fuel generalizing first input fields rest with
  | zero => cases h
  | succ fuel ih =>
    obtain ⟨⟨more, left⟩, -, h⟩ := exists_of_bind_ok h
    cases more with
    | false =>
      cases h
      exact fun f hf => by cases hf
    | true =>
      obtain ⟨⟨name, left⟩, -, h⟩ := exists_of_bind_ok h
      obtain ⟨left, -, h⟩ := exists_of_bind_ok h
      obtain ⟨⟨y, left⟩, one, h⟩ := exists_of_bind_ok h
      obtain ⟨⟨ys, left⟩, others, h⟩ := exists_of_bind_ok h
      cases h
      intro f hf
      rcases List.mem_cons.mp hf with rfl | hf
      · exact good one
      · exact ih others f hf

end Parsing

/-- What holds of words, numbers and texts that are read, and of sequences and objects if it does of
their parts. -/
structure Hereditary (P : Json → Prop) : Prop where
  /-- It holds of the null value. -/
  null : P .null
  /-- It holds of truth values. -/
  bool : ∀ b, P (.bool b)
  /-- It holds of numbers that are read. -/
  number : ∀ {negative : Bool} {input rest : List UInt8} {n : Number},
    numberToken negative input = .ok (n, rest) → P (.number n)
  /-- It holds of texts. -/
  string : ∀ s, P (.string s)
  /-- It holds of a sequence if it does of the items. -/
  array : ∀ {items : List Json}, (∀ v ∈ items, P v) → P (.array items)
  /-- It holds of an object if it does of the values of the fields. -/
  object : ∀ {fields : List (String × Json)}, (∀ f ∈ fields, P f.2) → P (.ofFields fields)

namespace Hereditary

variable {P : Json → Prop}

/-- It holds of a value if it does of all that is read one level deeper. -/
theorem of_deeper (hereditary : Hereditary P) {depth : Nat} {input rest : List UInt8} {v : Json}
    (deeper : ∀ d, depth = d + 1 → ∀ {input x rest}, value d input = .ok (x, rest) → P x)
    (h : value depth input = .ok (v, rest)) : P v := by
  unfold value at h
  split at h
  · cases h
  split at h
  case h_1 =>
    obtain ⟨_, -, same⟩ := exists_of_map_ok h
    cases same
    exact hereditary.null
  case h_2 | h_3 =>
    obtain ⟨_, -, same⟩ := exists_of_map_ok h
    cases same
    exact hereditary.bool _
  case h_4 | h_5 =>
    obtain ⟨_, read, same⟩ := exists_of_map_ok h
    cases same
    exact hereditary.number read
  case h_6 =>
    obtain ⟨_, -, same⟩ := exists_of_map_ok h
    cases same
    exact hereditary.string _
  case h_9 =>
    obtain ⟨_, read, same⟩ := exists_of_map_ok h
    cases same
    exact hereditary.array (items_all (deeper _ rfl) read)
  case h_10 =>
    obtain ⟨_, read, same⟩ := exists_of_map_ok h
    cases same
    exact hereditary.object (members_all (deeper _ rfl) read)
  all_goals cases h

/-- **It holds of every value that is read**; the induction is on the depth. -/
theorem of_value (hereditary : Hereditary P) {depth : Nat} {input rest : List UInt8} {v : Json}
    (h : value depth input = .ok (v, rest)) : P v := by
  induction depth generalizing input rest v with
  | zero => exact hereditary.of_deeper (fun d none => by cases none) h
  | succ depth ih =>
    refine hereditary.of_deeper (fun d same => ?_) h
    cases same
    exact ih

end Hereditary

/-- A whole text is read if nothing but blanks is left of it. -/
theorem whole_ok_iff {α : Type} {read : Parse α} {text : List UInt8} {x : α} :
    whole read text = .ok x ↔ ∃ rest, read text = .ok (x, rest) ∧ skipBlanks rest = [] := by
  unfold whole finished
  cases read text with
  | error f => simp
  | ok r =>
    obtain ⟨y, rest⟩ := r
    cases left : skipBlanks rest with
    | nil => simp [left]
    | cons b start =>
      simp only [left, reduceCtorEq, Except.ok.injEq, Prod.mk.injEq, false_iff]
      rintro ⟨rest', ⟨-, rfl⟩, none⟩
      rw [left] at none
      cases none

/-- **What is hereditary holds of the value of every text.** -/
theorem Hereditary.of_parse {P : Json → Prop} (hereditary : Hereditary P) {text : List UInt8}
    {v : Json} (h : parse text = .ok v) : P v := by
  obtain ⟨rest, read, -⟩ := whole_ok_iff.mp h
  exact hereditary.of_value read

/-- **Names differ in every object that is read from a text.** -/
theorem distinct_of_parse {text : List UInt8} {v : Json} (h : parse text = .ok v) :
    v.Distinct := by
  have hereditary : Hereditary Distinct :=
    { null := .null
      bool := .bool
      number := fun _ => .number _
      string := .string
      array := .array
      object := distinct_ofFields }
  exact hereditary.of_parse h

/-! ## §3. What stands under a name. -/

/-- The fields of a record: those of an object, or the items of a sequence that is as long as the
record, under its names as they are declared. -/
def fieldsAs? (names : List String) : Json → Option (List (String × Json))
  | .object fields => some fields
  | .array items => if items.length = names.length then some (names.zip items) else none
  | _ => none

/-- Whether a value is null. -/
def isNull : Json → Bool
  | .null => true
  | _ => false

/-- What stands under a name; null counts as nothing. -/
def given? (name : String) (fields : List (String × Json)) : Option Json :=
  ((fields.find? (·.1 == name)).map (·.2)).filter fun v => !v.isNull

/-- What stands under a name of a record of some kinds. -/
def part? (kinds : List (String × (Json → Bool))) (name : String) (v : Json) : Option Json :=
  (v.fieldsAs? (kinds.map (·.1))).bind (given? name)

/-- **A record fits**: it has fields, and whatever stands under one of its names is of the kind that
is declared there. -/
def fits (kinds : List (String × (Json → Bool))) (v : Json) : Bool :=
  match v.fieldsAs? (kinds.map (·.1)) with
  | none => false
  | some fields => kinds.all fun k => (given? k.1 fields).all k.2

theorem find?_key {α : Type} {key : α → String} {l : List α} (differ : (l.map key).Nodup)
    {name : String} {x : α} : l.find? (key · == name) = some x ↔ x ∈ l ∧ key x = name := by
  induction l with
  | nil => simp
  | cons y rest ih =>
    obtain ⟨first, differ⟩ := List.nodup_cons.mp differ
    rw [List.find?_cons]
    cases same : key y == name with
    | true =>
      have same := beq_iff_eq.mp same
      constructor
      · rintro ⟨⟩
        exact ⟨List.mem_cons_self, same⟩
      · rintro ⟨member, here⟩
        rcases List.mem_cons.mp member with rfl | member
        · rfl
        · exact absurd (List.mem_map.mpr ⟨x, member, here.trans same.symm⟩) first
    | false =>
      have other : key y ≠ name := fun same' => by rw [same', beq_self_eq_true] at same; cases same
      rw [ih differ, List.mem_cons]
      constructor
      · exact fun h => ⟨.inr h.1, h.2⟩
      · rintro ⟨rfl | member, here⟩
        · exact absurd here other
        · exact ⟨member, here⟩

theorem field?_eq_some_iff {fields : List (String × Json)} (names : (fields.map (·.1)).Nodup)
    {name : String} {v : Json} :
    field? name (.object fields) = some v ↔ (name, v) ∈ fields := by
  unfold field?
  rw [Option.map_eq_some_iff]
  constructor
  · rintro ⟨p, found, rfl⟩
    obtain ⟨member, rfl⟩ := (find?_key names).mp found
    exact member
  · exact fun member => ⟨_, (find?_key names).mpr ⟨member, rfl⟩, rfl⟩

theorem given?_eq_some_iff {fields : List (String × Json)} (names : (fields.map (·.1)).Nodup)
    {name : String} {v : Json} :
    given? name fields = some v ↔ (name, v) ∈ fields ∧ v.isNull = false := by
  rw [← field?_eq_some_iff names]
  show (field? name (.object fields)).filter _ = some v ↔ _
  rw [Option.filter_eq_some_iff, Bool.not_eq_true']

theorem isNull_of_fieldsAs? {names : List String} {v : Json} {fields : List (String × Json)}
    (h : v.fieldsAs? names = some fields) : v.isNull = false := by
  cases v with
  | null => cases h
  | _ => rfl

/-- What is there is of a kind exactly if it is null or of the kind. -/
theorem all_filter (x : Json) (kind : Json → Bool) :
    ((some x).filter fun y => !y.isNull).all kind = (x.isNull || kind x) := by
  rw [Option.filter_some]
  cases x.isNull <;> rfl

/-- The fields of a record whose names differ have names that differ. -/
theorem nodup_of_fieldsAs? {names : List String} {v : Json} {fields : List (String × Json)}
    (differ : names.Nodup) (distinct : v.Distinct) (h : v.fieldsAs? names = some fields) :
    (fields.map (·.1)).Nodup ∧ ∀ f ∈ fields, f.2.Distinct := by
  cases distinct with
  | object own each =>
    cases h
    exact ⟨own, each⟩
  | array each =>
    obtain ⟨long, h⟩ := Option.ite_none_right_eq_some.mp h
    cases h
    refine ⟨?_, fun f hf => each f.2 (List.of_mem_zip hf).2⟩
    rw [List.map_fst_zip (Nat.le_of_eq long.symm)]
    exact differ
  | _ => cases h

/-! ## §4. Whether a record can be read. -/

section Records

variable {σ : Type}

/-- A field takes whatever is null or of a kind, whatever has been read before. -/
def ValueField.Takes (f : ValueField σ) (kind : Json → Bool) : Prop :=
  ∀ s v, v.Distinct → (f.read s v).isOk = (v.isNull || kind v)

theorem ValueField.takes_of {α : Type} {name : String} {read : ValueReader α}
    {put : σ → Option α → σ} {kind : Json → Bool} (h : ∀ v, v.Distinct → (read v).isOk = kind v) :
    (ValueField.of name (optionalOf read) put).Takes kind := by
  intro s v distinct
  show ((optionalOf read v).map (put s)).isOk = _
  rw [isOk_map]
  cases v with
  | null => rfl
  | _ => exact (isOk_map _ _).trans (h _ distinct)

/-- A record follows kinds: it has the same names in the same order, and takes under each what is of
the kind. -/
def ValueRecord.Follows (r : ValueRecord σ) (kinds : List (String × (Json → Bool))) : Prop :=
  List.Forall₂ (fun f k => f.name = k.1 ∧ f.Takes k.2) r.fields kinds

variable {r : ValueRecord σ} {kinds : List (String × (Json → Bool))}

theorem ValueRecord.Follows.names (follows : r.Follows kinds) :
    r.fields.map (·.name) = kinds.map (·.1) := by
  unfold ValueRecord.Follows at follows
  generalize r.fields = fields at follows ⊢
  induction follows with
  | nil => rfl
  | cons one _ ih => simp only [List.map_cons, one.1, ih]

/-- A name is known to both or to neither. -/
theorem ValueRecord.Follows.find (follows : r.Follows kinds) (name : String) :
    (r.fields.find? (·.name == name) = none ∧ kinds.find? (·.1 == name) = none) ∨
    ∃ f k, r.fields.find? (·.name == name) = some f ∧ kinds.find? (·.1 == name) = some k ∧
      f.Takes k.2 := by
  unfold ValueRecord.Follows at follows
  generalize r.fields = fields at follows ⊢
  induction follows with
  | nil => exact .inl ⟨rfl, rfl⟩
  | @cons f k _ _ one _ ih =>
    rw [List.find?_cons, List.find?_cons, one.1]
    cases k.1 == name with
    | true => exact .inr ⟨f, k, rfl, rfl, one.2⟩
    | false => exact ih

theorem ValueRecord.isOk_readFields (follows : r.Follows kinds) {fields : List (String × Json)}
    (each : ∀ f ∈ fields, f.2.Distinct) (s : σ) :
    (r.readFields s fields).isOk = fields.all fun f =>
      (kinds.find? (·.1 == f.1)).all fun k => f.2.isNull || k.2 f.2 := by
  induction fields generalizing s with
  | nil => rfl
  | cons f rest ih =>
    obtain ⟨name, v⟩ := f
    have others := ih fun g hg => each g (List.mem_cons_of_mem _ hg)
    unfold readFields
    rw [List.all_cons]
    rcases follows.find name with ⟨unknown, unknown'⟩ | ⟨f, k, found, found', takes⟩
    · rw [unknown, unknown', others s]
      rfl
    · have taken := takes s v (each _ List.mem_cons_self)
      rw [found, found', Option.all_some, ← taken]
      show (f.read s v >>= fun s' => r.readFields s' rest).isOk = _
      cases f.read s v with
      | error m => rfl
      | ok s' => exact others s'

/-- A sequence of the right length is read like the fields that its items are. -/
theorem ValueRecord.readItems_eq {due : List (ValueField σ)}
    (known : ∀ f ∈ due, r.fields.find? (·.name == f.name) = some f) {items : List Json}
    (long : items.length = due.length) (size index : Nat) (s : σ) :
    r.readItems size due index s items = r.readFields s ((due.map (·.name)).zip items) := by
  induction due generalizing items index s with
  | nil =>
    cases List.eq_nil_of_length_eq_zero long
    rfl
  | cons f due ih =>
    cases items with
    | nil => cases long
    | cons v rest =>
      have found := known f List.mem_cons_self
      rw [List.map_cons, List.zip_cons_cons]
      unfold readItems readFields
      rw [found]
      show (f.read s v >>= _) = (f.read s v >>= _)
      cases f.read s v with
      | error m => rfl
      | ok s' =>
        have due_known := fun g hg => known g (List.mem_cons_of_mem f hg)
        exact ih due_known (Nat.succ.inj long) (index + 1) s'

/-- A sequence that is read is as long as the record. -/
theorem ValueRecord.length_of_readItems {due : List (ValueField σ)} {items : List Json}
    {size index : Nat} {s d : σ} (h : r.readItems size due index s items = .ok d) :
    items.length = due.length := by
  induction due generalizing items index s with
  | nil =>
    cases items with
    | nil => rfl
    | cons => cases h
  | cons f due ih =>
    cases items with
    | nil => cases h
    | cons v rest =>
      obtain ⟨s', -, h⟩ := exists_of_bind_ok h
      exact congrArg Nat.succ (ih h)

/-- **A record is read from its fields**, be it an object or a sequence. -/
theorem ValueRecord.read_eq (differ : (r.fields.map (·.name)).Nodup) {v : Json}
    {fields : List (String × Json)} (h : v.fieldsAs? (r.fields.map (·.name)) = some fields) :
    r.read v = r.readFields r.blank fields := by
  cases v with
  | object =>
    cases h
    rfl
  | array items =>
    obtain ⟨long, h⟩ := Option.ite_none_right_eq_some.mp h
    cases h
    rw [List.length_map] at long
    exact readItems_eq (fun f hf => (find?_key differ).mpr ⟨hf, rfl⟩) long _ _ _
  | _ => cases h

/-- What has no fields is not read. -/
theorem ValueRecord.isOk_read_none {v : Json}
    (h : v.fieldsAs? (r.fields.map (·.name)) = none) : (r.read v).isOk = false := by
  cases v with
  | object => cases h
  | array items =>
    cases read : r.read (.array items) with
    | error m => rfl
    | ok d =>
      have long : items.length = (r.fields.map (·.name)).length :=
        (length_of_readItems read).trans (List.length_map _).symm
      simp only [fieldsAs?, if_pos long] at h
      cases h
  | _ => rfl

/-- **A record can be read exactly if it fits.** -/
theorem ValueRecord.isOk_read (follows : r.Follows kinds) (differ : (kinds.map (·.1)).Nodup)
    {v : Json} (distinct : v.Distinct) : (r.read v).isOk = fits kinds v := by
  have names := follows.names
  unfold fits
  cases has : v.fieldsAs? (kinds.map (·.1)) with
  | none => exact isOk_read_none (by rw [names]; exact has)
  | some fields =>
    obtain ⟨own, each⟩ := nodup_of_fieldsAs? differ distinct has
    rw [← names] at has
    rw [read_eq (by rw [names]; exact differ) has, isOk_readFields follows each, Bool.eq_iff_iff,
      List.all_eq_true, List.all_eq_true]
    -- under every name that both know stands what is of the kind
    constructor
    · intro all k hk
      cases given : given? k.1 fields with
      | none => rfl
      | some x =>
        obtain ⟨member, some⟩ := (given?_eq_some_iff own).mp given
        have fit := all _ member
        rw [(find?_key differ).mpr ⟨hk, rfl⟩, Option.all_some, some, Bool.false_or] at fit
        exact fit
    · intro all f hf
      cases known : kinds.find? (·.1 == f.1) with
      | none => rfl
      | some k =>
        obtain ⟨hk, same⟩ := (find?_key differ).mp known
        rw [Option.all_some]
        cases null : f.2.isNull with
        | true => rfl
        | false =>
          have fit := all k hk
          rw [(given?_eq_some_iff own).mpr ⟨by rw [same]; exact hf, null⟩] at fit
          exact fit

/-! ## §5. What a record shows. -/

/-- What stands there, as it is read; what cannot be read tells nothing. -/
def told {β : Type} (read : ValueReader β) (v : Json) : Option β := (read v).toOption

/-- A field shows what it reads if it has the name, and else leaves what is shown. -/
def ValueField.ShowsAs {β : Type} (f : ValueField σ) (name : String) (view : σ → Option β)
    (read : ValueReader β) : Prop :=
  ∀ s v s', f.read s v = .ok s' → view s' = if f.name = name then told read v else view s

theorem ValueField.showsAs_own {β : Type} {name : String} {view : σ → Option β}
    {read : ValueReader β} {put : σ → Option β → σ} (kept : ∀ s x, view (put s x) = x)
    (null : told read .null = none) :
    (ValueField.of name (optionalOf read) put).ShowsAs name view read := by
  intro s v s' h
  obtain ⟨x, ran, rfl⟩ := exists_of_map_ok h
  have named : (ValueField.of name (optionalOf read) put).name = name := rfl
  rw [if_pos named, kept]
  cases v with
  | null =>
    cases ran
    exact null.symm
  | _ =>
    obtain ⟨y, taken, rfl⟩ := exists_of_map_ok ran
    unfold told
    rw [taken]
    rfl

theorem ValueField.showsAs_other {α β : Type} {own name : String} {view : σ → Option β}
    {read : ValueReader β} {other : ValueReader α} {put : σ → α → σ}
    (left : ∀ s x, view (put s x) = view s) (differ : own ≠ name) :
    (ValueField.of own other put).ShowsAs name view read := by
  intro s v s' h
  obtain ⟨x, -, rfl⟩ := exists_of_map_ok h
  have named : (ValueField.of own other put).name ≠ name := differ
  rw [if_neg named, left]

/-- A record shows under a name what stands there: reading that field shows it, and reading any
other changes nothing of it. -/
structure ValueRecord.Shows {β : Type} (r : ValueRecord σ) (name : String) (view : σ → Option β)
    (read : ValueReader β) : Prop where
  /-- Nothing is shown at first. -/
  blank : view r.blank = none
  /-- Null counts as nothing. -/
  null : told read .null = none
  /-- Some field has the name. -/
  known : ∃ f, r.fields.find? (·.name == name) = some f
  /-- It shows what stands there, and the others leave it. -/
  each : ∀ f ∈ r.fields, f.ShowsAs name view read

variable {β : Type} {name : String} {view : σ → Option β} {read : ValueReader β}

theorem ValueRecord.Shows.of_readFields (shows : r.Shows name view read)
    {fields : List (String × Json)} (own : (fields.map (·.1)).Nodup) {s d : σ}
    (h : r.readFields s fields = .ok d) :
    view d = match fields.find? (·.1 == name) with
      | some p => told read p.2
      | none => view s := by
  induction fields generalizing s with
  | nil =>
    cases h
    rfl
  | cons p rest ih =>
    obtain ⟨x, v⟩ := p
    obtain ⟨first, own⟩ := List.nodup_cons.mp own
    rw [List.find?_cons]
    unfold readFields at h
    cases found : r.fields.find? (·.name == x) with
    | none =>
      rw [found] at h
      have other : (x == name) = false := beq_false_of_ne fun same => by
        obtain ⟨f, known⟩ := shows.known
        rw [← same, found] at known
        cases known
      rw [other]
      exact ih own h
    | some f =>
      rw [found] at h
      obtain ⟨s', ran, h⟩ := exists_of_bind_ok h
      have member := List.mem_of_find?_eq_some found
      have named := List.find?_some found
      have called : f.name = x := beq_iff_eq.mp named
      have later := ih own h
      cases same : x == name with
      | true =>
        have here := beq_iff_eq.mp same
        -- the name does not occur again
        have none : rest.find? (·.1 == name) = none := List.find?_eq_none.mpr fun q hq again =>
          first (List.mem_map.mpr ⟨q, hq, (beq_iff_eq.mp again).trans here.symm⟩)
        rw [none] at later
        exact later.trans ((shows.each f member s v s' ran).trans (if_pos (called.trans here)))
      | false =>
        have other : f.name ≠ name := fun same' => by
          rw [← called, same', beq_self_eq_true] at same
          cases same
        rw [later, shows.each f member s v s' ran, if_neg other]

/-- **What a record shows is what stands under the name.** -/
theorem ValueRecord.Shows.of_read (shows : r.Shows name view read) (follows : r.Follows kinds)
    (differ : (kinds.map (·.1)).Nodup) {v : Json} (distinct : v.Distinct) {d : σ}
    (h : r.read v = .ok d) : view d = (v.part? kinds name).bind (told read) := by
  unfold part?
  cases has : v.fieldsAs? (kinds.map (·.1)) with
  | none =>
    rw [← follows.names] at has
    have unread := isOk_read_none has
    rw [h] at unread
    cases unread
  | some fields =>
    have own := (nodup_of_fieldsAs? differ distinct has).1
    rw [← follows.names] at has differ
    rw [read_eq differ has] at h
    rw [shows.of_readFields own h, Option.bind_some]
    unfold given?
    cases fields.find? (·.1 == name) with
    | none => exact shows.blank
    | some p =>
      obtain ⟨x, v⟩ := p
      cases v with
      | null => exact shows.null
      | _ => rfl

end Records

/-- What stands under a name of a record that fits is of the kind. -/
theorem all_of_fits {kinds : List (String × (Json → Bool))} {v : Json} (fit : fits kinds v = true)
    (name : String) (kind : Json → Bool) (member : (name, kind) ∈ kinds) :
    (v.part? kinds name).all kind = true := by
  unfold fits at fit
  unfold part?
  cases has : v.fieldsAs? (kinds.map (·.1)) with
  | none => rfl
  | some fields =>
    rw [has] at fit
    exact List.all_eq_true.mp fit _ member

/-- Records fit alike if they do so under each name. -/
theorem fits_congr {kinds : List (String × (Json → Bool))} {v v' : Json}
    {fields fields' : List (String × Json)} (has : v.fieldsAs? (kinds.map (·.1)) = some fields)
    (has' : v'.fieldsAs? (kinds.map (·.1)) = some fields')
    (each : ∀ k ∈ kinds, (v.part? kinds k.1).all k.2 = (v'.part? kinds k.1).all k.2) :
    fits kinds v = fits kinds v' := by
  unfold fits
  unfold part? at each
  rw [has, has'] at each ⊢
  dsimp only
  rw [Bool.eq_iff_iff, List.all_eq_true, List.all_eq_true]
  exact forall₂_congr fun k known => Eq.congr_left (each k known)

/-- The names differ in what stands under a name, if they do in the whole. -/
theorem distinct_of_part? {kinds : List (String × (Json → Bool))} {v x : Json} {name : String}
    (differ : (kinds.map (·.1)).Nodup) (distinct : v.Distinct) (h : v.part? kinds name = some x) :
    x.Distinct := by
  obtain ⟨fields, has, given⟩ := Option.bind_eq_some_iff.mp h
  obtain ⟨own, each⟩ := nodup_of_fieldsAs? differ distinct has
  exact each _ ((given?_eq_some_iff own).mp given).1

/-- **Nothing stands under a name, and nothing is shown; or what stands there could be read, and is
shown.** -/
theorem ValueRecord.Shows.cases_of_read {σ β : Type} {r : ValueRecord σ}
    {kinds : List (String × (Json → Bool))} {name : String} {view : σ → Option β}
    {read : ValueReader β} {kind : Json → Bool} (shows : r.Shows name view read)
    (follows : r.Follows kinds) (differ : (kinds.map (·.1)).Nodup)
    (takes : ∀ v, v.Distinct → (read v).isOk = kind v) (member : (name, kind) ∈ kinds) {v : Json}
    (distinct : v.Distinct) {d : σ} (h : r.read v = .ok d) :
    (v.part? kinds name = none ∧ view d = none) ∨
    ∃ x y, v.part? kinds name = some x ∧ x.Distinct ∧ read x = .ok y ∧ view d = some y := by
  have shown := shows.of_read follows differ distinct h
  cases given : v.part? kinds name with
  | none => exact .inl ⟨rfl, by rw [shown, given]; rfl⟩
  | some x =>
    have fit : fits kinds v = true := by
      rw [← isOk_read follows differ distinct, h]
      rfl
    have solid := distinct_of_part? differ distinct given
    have taken := all_of_fits fit name kind member
    rw [given, Option.all_some, ← takes x solid] at taken
    cases ran : read x with
    | error m =>
      rw [ran] at taken
      cases taken
    | ok y =>
      refine .inr ⟨x, y, rfl, solid, ran, ?_⟩
      rw [shown, given, Option.bind_some]
      unfold told
      rw [ran]
      rfl

end Json

end WorkloadIdentity
