/-
  WorkloadIdentity.Proofs.Json.Passing ──── **WHAT ONE READS, ANOTHER PASSES OVER.**

  Two records may be looked for in the same text.  A field that only one of them knows is a value
  to the one and to the other something to pass over; both come out at the same byte, and so they
  go on together.  A field that both know, and that is a text to the one and a record to the other,
  can be read by one of them only: the first byte of its value decides.

  Main results:
    * `skip_of_readOptional`   — a text, or null, is passed over as it is read
    * `TextRecord.read_cases`, `TextRecord.readFields_cases` — how a record comes to be read
    * `TextRecord.Clash.not_both` — records that clash at a field are not both in one text
-/
import WorkloadIdentity.Proofs.Json.Consumption
import WorkloadIdentity.Proofs.Json.Fields
import Mathlib.Data.List.DropRight

namespace WorkloadIdentity.Json

/-! ## §1. Texts. -/

/-- Where the skipper stands while the reader stands here.  It does not know about surrogates. -/
def StringState.passing : StringState → SkipState
  | .plain | .pair _ => .plain
  | .escape | .pairEscape _ => .escape
  | .hex _ seen => .hex seen

/-- The text ends for both. -/
theorem skipString_of_end {state : StringState} {b : UInt8} {out : List UInt8}
    (h : stringStep state b = .ok (out, none)) (rest : List UInt8) :
    skipString state.passing (b :: rest) = .ok rest := by
  cases state with
  | plain =>
    simp only [stringStep] at h
    split at h
    · rename_i quote
      simp only [StringState.passing, skipString, if_pos quote]
    · grind
  | escape => grind [stringStep]
  | hex high seen =>
    simp only [stringStep] at h
    split at h
    · cases h
    · split at h
      · cases h
      · obtain ⟨r, -, made⟩ := exists_of_map_ok h
        cases made
  | pair high => grind [stringStep]
  | pairEscape high => grind [stringStep]

/-- The code of an escape leads to a character, or to a surrogate that waits for another one. -/
theorem passing_of_codeUnit {high : Option Nat} {n : Nat} {out : List UInt8} {next : StringState}
    (h : codeUnit high n = .ok (out, next)) : next.passing = .plain := by
  unfold codeUnit at h
  grind [StringState.passing]

/-- **The skipper goes along with the reader.** -/
theorem skipString_of_step {state next : StringState} {b : UInt8} {out : List UInt8}
    (h : stringStep state b = .ok (out, some next)) (rest : List UInt8) :
    skipString state.passing (b :: rest) = skipString next.passing rest := by
  cases state with
  | plain =>
    simp only [stringStep] at h
    simp only [StringState.passing, skipString]
    grind [StringState.passing]
  | escape =>
    simp only [stringStep] at h
    simp only [StringState.passing, skipString, isShortEscape]
    grind [StringState.passing]
  | hex high seen =>
    simp only [stringStep] at h
    show skipString (.hex seen) (b :: rest) = _
    rw [skipString]
    by_cases few : seen.length < 3
    · rw [if_pos few] at h ⊢
      cases h
      rfl
    · rw [if_neg few] at h ⊢
      cases code : fourDigits? (seen ++ [b]) with
      | none =>
        rw [code] at h
        cases h
      | some n =>
        rw [code] at h
        obtain ⟨r, unit, made⟩ := exists_of_map_ok h
        cases made
        rw [passing_of_codeUnit unit]
  | pair high =>
    simp only [stringStep] at h
    simp only [StringState.passing, skipString]
    grind [StringState.passing]
  | pairEscape high =>
    simp only [stringStep] at h
    simp only [StringState.passing, skipString]
    grind [StringState.passing]

/-- **A text that can be read is passed over.** -/
theorem skipString_of_stringBytes {state : StringState} {input out rest : List UInt8}
    (h : stringBytes state input = .ok (out, rest)) :
    skipString state.passing input = .ok rest := by
  induction input generalizing state out with
  | nil => cases h
  | cons b input ih =>
    simp only [stringBytes] at h
    split at h
    · cases h
    · rename_i step
      cases h
      exact skipString_of_end step rest
    · rename_i next step
      obtain ⟨r, later, made⟩ := exists_of_map_ok h
      cases made
      rw [skipString_of_step step]
      exact ih later

/-- What follows a text is where the skipper ends. -/
theorem skipString_of_stringToken {input rest : List UInt8} {text : String}
    (h : stringToken input = .ok (text, rest)) : skipString .plain input = .ok rest := by
  obtain ⟨⟨bytes, left⟩, read, decoded⟩ := exists_of_bind_ok h
  dsimp only at decoded
  split at decoded
  · cases decoded
    exact skipString_of_stringBytes read
  · cases decoded

/-- A scalar is the whole of what is passed over. -/
theorem skip_of_skipToken {input rest : List UInt8} (h : skipToken input = .ok (none, rest)) :
    skip input = .ok rest := by
  unfold skip skipFrom
  simp only [h, bind, Except.bind]
  exact skipFrom.eq_2 _ _

/-! ## §2. The first byte of a value. -/

theorem skipBlanks_of_found {input start : List UInt8} {b : UInt8}
    (found : skipBlanks input = b :: start) : skipBlanks (b :: start) = b :: start := by
  rw [← found]
  exact List.dropWhile_idempotent _ _

/-- A text begins with a quote. -/
theorem readString_cases {depth : Nat} {input rest : List UInt8} {text : String}
    (h : readString depth input = .ok (text, rest)) :
    ∃ b start, skipBlanks input = b :: start ∧ Opening.of b = .quote ∧
      stringToken start = .ok (text, rest) := by
  unfold readString at h
  split at h
  · cases h
  · rename_i b start found
    obtain ⟨quote, read⟩ | ⟨-, fault⟩ := ite_eq_iff.mp h
    · exact ⟨b, start, found, quote, read⟩
    · cases fault

theorem skip_of_quote {input start rest : List UInt8} {b : UInt8} {text : String}
    (found : skipBlanks input = b :: start) (quote : Opening.of b = .quote)
    (read : stringToken start = .ok (text, rest)) : skip input = .ok rest := by
  have passed := skipString_of_stringToken read
  apply skip_of_skipToken
  simp only [skipToken, found, quote, passed, Except.map]

/-- **A text, or null, is passed over as it is read.** -/
theorem skip_of_readOptional {depth : Nat} {input rest : List UInt8} {text : Option String}
    (h : readOptional readString depth input = .ok (text, rest)) : skip input = .ok rest := by
  unfold readOptional at h
  split at h
  · rename_i b start found
    split at h
    · rename_i null
      obtain ⟨left, word, made⟩ := exists_of_map_ok h
      cases made
      apply skip_of_skipToken
      simp only [skipToken, found, null, word, Except.map]
    · obtain ⟨r, read, made⟩ := exists_of_map_ok h
      cases made
      obtain ⟨b', start', found', quote, text⟩ := readString_cases read
      -- the blanks have been passed over before
      rw [skipBlanks_of_found found] at found'
      exact skip_of_quote (found.trans found') quote text
  · obtain ⟨r, read, made⟩ := exists_of_map_ok h
    cases read

section Records

variable {σ α : Type} {r : TextRecord σ α} {depth : Nat} {input rest : List UInt8}

/-- A record begins with a bracket or a brace, and takes one level. -/
theorem TextRecord.read_cases {x : α} (h : r.read depth input = .ok (x, rest)) :
    ∃ inner b start s left, depth = inner + 1 ∧ skipBlanks input = b :: start ∧
      r.finish s = .ok x ∧
      ((Opening.of b = .bracket ∧ r.readItems inner r.fields 0 true r.blank start = .ok (s, left)) ∨
        (Opening.of b = .brace ∧
          r.readFields inner (start.length + 1) true r.blank start = .ok (s, left))) := by
  unfold read at h
  split at h
  · cases h
  · rename_i b start found
    split at h
    · cases h
    · cases h
    · rename_i inner bracket
      obtain ⟨⟨s, left⟩, items, made⟩ := exists_of_bind_ok h
      dsimp only at made
      split at made
      · cases made
      · rename_i y done
        obtain ⟨after, -, same⟩ := exists_of_bind_ok made
        cases same
        exact ⟨inner, b, start, s, left, rfl, found, done, .inl ⟨bracket, items⟩⟩
    · rename_i inner brace
      obtain ⟨⟨s, left⟩, fields, made⟩ := exists_of_bind_ok h
      dsimp only at made
      split at made
      · cases made
      · rename_i y done
        cases made
        exact ⟨inner, b, start, s, left, rfl, found, done, .inr ⟨brace, fields⟩⟩
    · cases h

/-- **What is a text is not a record.** -/
theorem TextRecord.not_read_of_readString {text : String} {left : List UInt8} {x : α}
    (asText : readString depth input = .ok (text, left)) : r.read depth input ≠ .ok (x, rest) := by
  intro asRecord
  obtain ⟨b, start, found, quote, -⟩ := readString_cases asText
  obtain ⟨_, b', start', _, _, _, found', -, opens⟩ := TextRecord.read_cases asRecord
  cases found.symm.trans found'
  rcases opens with ⟨bracket, -⟩ | ⟨brace, -⟩
  · cases quote.symm.trans bracket
  · cases quote.symm.trans brace

/-! ## §3. One round over the fields of an object. -/

/-- The name of the next field of an object, and the text that begins with its value. -/
def Named (first : Bool) (input : List UInt8) (name : String) (value : List UInt8) : Prop :=
  ∃ start after, nextKey first input = .ok (true, start) ∧ stringToken start = .ok (name, after) ∧
    colon after = .ok value

theorem Named.unique {first : Bool} {name name' : String} {value value' : List UInt8}
    (h : Named first input name value) (h' : Named first input name' value') :
    name = name' ∧ value = value' := by
  obtain ⟨start, after, next, token, mark⟩ := h
  obtain ⟨start', after', next', token', mark'⟩ := h'
  cases next.symm.trans next'
  cases token.symm.trans token'
  cases mark.symm.trans mark'
  exact ⟨rfl, rfl⟩

/-- **One round**: the object ends, or a field that the record does not know is passed over, or a
field that it knows is read into the draft. -/
theorem TextRecord.readFields_cases {fuel : Nat} {first : Bool} {s d : σ}
    (h : r.readFields depth (fuel + 1) first s input = .ok (d, rest)) :
    (nextKey first input = .ok (false, rest) ∧ d = s) ∨
      ∃ name value, Named first input name value ∧
        ((r.fields.find? (·.name == name) = none ∧ ∃ left, skip value = .ok left ∧
            r.readFields depth fuel false s left = .ok (d, rest)) ∨
          ∃ f s' left, r.fields.find? (·.name == name) = some f ∧ f.held s = false ∧
            f.read depth s value = .ok (s', left) ∧
            r.readFields depth fuel false s' left = .ok (d, rest)) := by
  unfold readFields at h
  obtain ⟨⟨more, start⟩, next, h⟩ := exists_of_bind_ok h
  cases more with
  | false =>
    cases h
    exact .inl ⟨next, rfl⟩
  | true =>
    obtain ⟨⟨name, after⟩, token, h⟩ := exists_of_bind_ok h
    dsimp only at h
    split at h
    · rename_i unknown
      obtain ⟨value, mark, h⟩ := exists_of_bind_ok h
      obtain ⟨left, passed, h⟩ := exists_of_bind_ok h
      exact .inr ⟨name, value, ⟨start, after, next, token, mark⟩, .inl ⟨unknown, left, passed, h⟩⟩
    · rename_i f known
      split at h
      · cases h
      · rename_i fresh
        obtain ⟨value, mark, h⟩ := exists_of_bind_ok h
        obtain ⟨⟨s', left⟩, read, h⟩ := exists_of_bind_ok h
        exact .inr ⟨name, value, ⟨start, after, next, token, mark⟩,
          .inr ⟨f, s', left, known, Bool.eq_false_of_not_eq_true fresh, read, h⟩⟩

end Records

/-! ## §4. Two records in one text. -/

section Both

variable {σ α σ' α' : Type}

/-- **Records that clash.**  They know a name in common, and what it names can be read by one of
them only.  The second knows no other name; the other fields of the first are passed over as they
are read, and do not make up for the one that is missing. -/
structure TextRecord.Clash (r : TextRecord σ α) (f : TextField σ) (others : List (TextField σ))
    (r' : TextRecord σ' α') (f' : TextField σ') (missing : σ → Prop) : Prop where
  /-- The fields of the first. -/
  fields : r.fields = f :: others
  /-- The field of the second. -/
  single : r'.fields = [f']
  /-- No sequence is a record of the first kind without the field. -/
  due : f.mayEnd = false
  /-- The name in common. -/
  name : f.name = f'.name
  /-- What it names can be read by one of them only. -/
  either : ∀ {depth s s' input t t'}, f.read depth s input = .ok t → f'.read depth s' input ≠ .ok t'
  /-- The other fields are passed over, and what is missing stays so. -/
  passed : ∀ g ∈ others, ∀ {depth s input s' left}, g.read depth s input = .ok (s', left) →
    skip input = .ok left ∧ (missing s → missing s')
  /-- At first it is missing. -/
  blank : missing r.blank
  /-- There is no record without it. -/
  needed : ∀ {s x}, missing s → r.finish s ≠ .ok x

variable {r : TextRecord σ α} {f : TextField σ} {others : List (TextField σ)}
  {r' : TextRecord σ' α'} {f' : TextField σ'} {missing : σ → Prop} {depth : Nat}
  {input : List UInt8}

/-- A sequence would have to begin with what both can read. -/
theorem TextRecord.Clash.not_readItems (clash : r.Clash f others r' f' missing) {s t : σ}
    {s' t' : σ'} {rest rest' : List UInt8}
    (h : r.readItems depth r.fields 0 true s input = .ok (t, rest)) :
    r'.readItems depth r'.fields 0 true s' input ≠ .ok (t', rest') := by
  intro h'
  rw [clash.fields] at h
  rw [clash.single] at h'
  unfold readItems at h h'
  obtain ⟨⟨more, start⟩, next, h⟩ := exists_of_bind_ok h
  obtain ⟨key, next', h'⟩ := exists_of_bind_ok h'
  cases next.symm.trans next'
  cases more with
  | true =>
    obtain ⟨item, read, -⟩ := exists_of_bind_ok h
    obtain ⟨item', read', -⟩ := exists_of_bind_ok h'
    exact clash.either read read'
  | false =>
    dsimp only at h
    rw [clash.due, if_neg Bool.false_ne_true] at h
    cases h

/-- **An object that both can read does not have the field.**  Round by round, either both pass the
value over, or the first reads it and ends up at the same byte. -/
theorem TextRecord.Clash.missing_of_readFields (clash : r.Clash f others r' f' missing)
    {fuel : Nat} {first : Bool} {s t : σ} {s' t' : σ'} {rest rest' : List UInt8}
    (h : r.readFields depth fuel first s input = .ok (t, rest))
    (h' : r'.readFields depth fuel first s' input = .ok (t', rest')) (unset : missing s) :
    missing t := by
  induction fuel generalizing first s s' input with
  | zero => cases h
  | succ fuel ih =>
    rcases readFields_cases h with ⟨-, rfl⟩ | ⟨name, value, here, round⟩
    · exact unset
    rcases readFields_cases h' with ⟨ended, -⟩ | ⟨name', value', here', round'⟩
    · obtain ⟨_, _, next, -⟩ := here
      cases next.symm.trans ended
    obtain ⟨rfl, rfl⟩ := here.unique here'
    rw [clash.fields, List.find?_cons] at round
    rw [clash.single, List.find?_singleton, ← clash.name] at round'
    cases common : f.name == name with
    | true =>
      -- both know the name, and then one of them fails at the value
      rw [common] at round round'
      rcases round with ⟨unknown, -⟩ | ⟨_, _, _, known, -, read, -⟩
      · cases unknown
      rcases round' with ⟨unknown, -⟩ | ⟨_, _, _, known', -, read', -⟩
      · cases unknown
      cases known
      cases known'
      exact absurd read' (clash.either read)
    | false =>
      -- the second passes the value over, and the first ends up at the same byte
      rw [common] at round round'
      rcases round' with ⟨-, left, skipped, h'⟩ | ⟨_, _, _, known', -⟩
      · rcases round with ⟨-, left', skipped', h⟩ | ⟨g, s₁, left', known, -, read, h⟩
        · cases skipped.symm.trans skipped'
          exact ih h h' unset
        · obtain ⟨skipped', kept⟩ := clash.passed g (List.mem_of_find?_eq_some known) read
          cases skipped.symm.trans skipped'
          exact ih h h' (kept unset)
      · cases known'

/-- **Records that clash are not both in one text.** -/
theorem TextRecord.Clash.not_both (clash : r.Clash f others r' f' missing) {x : α} {x' : α'}
    {rest rest' : List UInt8} (h : r.read depth input = .ok (x, rest)) :
    r'.read depth input ≠ .ok (x', rest') := by
  intro h'
  obtain ⟨inner, b, start, _, _, rfl, found, done, opens⟩ := TextRecord.read_cases h
  obtain ⟨_, _, _, _, _, same, found', -, opens'⟩ := TextRecord.read_cases h'
  cases same
  cases found.symm.trans found'
  rcases opens with ⟨bracket, items⟩ | ⟨brace, fields⟩
  · rcases opens' with ⟨-, items'⟩ | ⟨brace, -⟩
    · exact clash.not_readItems items items'
    · cases bracket.symm.trans brace
  · rcases opens' with ⟨bracket, -⟩ | ⟨-, fields'⟩
    · cases brace.symm.trans bracket
    · exact clash.needed (clash.missing_of_readFields fields fields' clash.blank) done

end Both

end WorkloadIdentity.Json
