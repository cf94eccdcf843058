/-
  WorkloadIdentity.Proofs.Http.FormRoundTrip ──── **A FORM IS READ BACK AS IT WAS WRITTEN.**

  Neither of the two marks of a form, the ampersand between pairs and the equals sign within one,
  is ever among the bytes of an encoded text.  So the marks that a reader finds are those that the
  writer has set, and between them every text comes back, whatever characters it has.

  Main results:
    * `Form.unescape_encodeText` — the bytes of a text come back
    * `Form.splitAt_encode`      — the pairs of a form come apart where they were joined
    * `Form.decode_encode`       — the pairs come back, in order
    * `Form.read?_encode`        — also to a reader who replaces and skips nothing
    * `Form.valuesOf_present`    — of several fields each has its own value
-/
import WorkloadIdentity.Http.Form
import WorkloadIdentity.Proofs.Text.Utf8RoundTrip

namespace WorkloadIdentity.Form

open Text (hexDigitUpper hexValue?)

/-! ## §1. One byte. -/

theorem hexValue?_upper {n : Nat} (h : n < 16) :
    hexValue? (UInt8.ofNat (hexDigitUpper n).toNat) = some n := by
  interval_cases n <;> rfl

/-- No digit is a mark. -/
theorem upper_ne_mark {n : Nat} (h : n < 16) :
    UInt8.ofNat (hexDigitUpper n).toNat ≠ 38 ∧ UInt8.ofNat (hexDigitUpper n).toNat ≠ 61 := by
  interval_cases n <;> decide

theorem unescape_percent (b : UInt8) (rest : List UInt8) :
    unescape (percent b ++ rest) = b :: unescape rest := by
  have bound := b.toNat_lt
  have high := hexValue?_upper (n := b.toNat / 16) (by omega)
  have low := hexValue?_upper (n := b.toNat % 16) (by omega)
  have joined : UInt8.ofNat (b.toNat / 16 * 16 + b.toNat % 16) = b := by
    rw [Nat.div_add_mod', UInt8.ofNat_toNat]
  simp only [percent, List.cons_append, List.nil_append, unescape, high, low, joined]

/-- A byte that is neither a percent nor a plus sign stands for itself. -/
theorem unescape_cons {b : UInt8} (percent : b ≠ 37) (plus : b ≠ 43) (rest : List UInt8) :
    unescape (b :: rest) = b :: unescape rest := by
  conv_lhs => unfold unescape
  -- the first two patterns are those of the signs that are excluded
  split
  · rename_i same
    exact absurd (List.cons.inj same).1 percent
  · rename_i same
    exact absurd (List.cons.inj same).1 plus
  · rename_i same
    obtain ⟨rfl, rfl⟩ := List.cons.inj same
    rfl
  · rename_i same
    cases same

/-- A byte that stands for itself is none of the bytes with a meaning of their own. -/
theorem ne_of_isPlain {b other : UInt8} (plain : isPlain b = true) (h : isPlain other = false) :
    b ≠ other := by
  rintro rfl
  rw [plain] at h
  cases h

theorem unescape_encodeByte (b : UInt8) (rest : List UInt8) :
    unescape (encodeByte b ++ rest) = b :: unescape rest := by
  unfold encodeByte
  split
  · -- neither sign with a meaning of its own stands for itself
    rename_i plain
    exact unescape_cons (ne_of_isPlain plain rfl) (ne_of_isPlain plain rfl) rest
  split
  · rename_i blank
    rw [blank]
    rfl
  · exact unescape_percent b rest

theorem encodeByte_no_mark {b x : UInt8} (hx : x ∈ encodeByte b) : x ≠ 38 ∧ x ≠ 61 := by
  have bound := b.toNat_lt
  unfold encodeByte at hx
  split at hx
  · rename_i plain
    cases List.mem_singleton.mp hx
    exact ⟨ne_of_isPlain plain rfl, ne_of_isPlain plain rfl⟩
  split at hx
  · cases List.mem_singleton.mp hx
    decide
  · simp only [percent, List.mem_cons, List.not_mem_nil, or_false] at hx
    rcases hx with rfl | rfl | rfl
    · decide
    · exact upper_ne_mark (by omega)
    · exact upper_ne_mark (by omega)

/-! ## §2. One text. -/

theorem unescape_flatMap (bytes rest : List UInt8) :
    unescape (bytes.flatMap encodeByte ++ rest) = bytes ++ unescape rest := by
  induction bytes with
  | nil => rfl
  | cons b bytes ih =>
    rw [List.flatMap_cons, List.append_assoc, unescape_encodeByte, ih]
    rfl

theorem unescape_encodeText (s : String) : unescape (encodeText s) = Utf8.encode s := by
  have read := unescape_flatMap (Utf8.encode s) []
  rw [List.append_nil] at read
  rw [encodeText, read]
  exact List.append_nil _

theorem encodeText_no_mark {s : String} {x : UInt8} (hx : x ∈ encodeText s) :
    x ≠ 38 ∧ x ≠ 61 := by
  obtain ⟨b, -, hb⟩ := List.mem_flatMap.mp hx
  exact encodeByte_no_mark hb

/-! ## §3. One pair. -/

theorem encodePair_no_ampersand (p : String × String) : 38 ∉ encodePair p := by
  intro h
  rcases List.mem_append.mp h with inName | inValue
  · exact (encodeText_no_mark inName).1 rfl
  · rcases List.mem_cons.mp inValue with mark | inValue
    · exact absurd mark (by decide)
    · exact (encodeText_no_mark inValue).1 rfl

theorem encodePair_ne_nil (p : String × String) : encodePair p ≠ [] := by
  simp [encodePair]

theorem takeWhile_encodePair (p : String × String) :
    (encodePair p).takeWhile (· != 61) = encodeText p.1 := by
  have inName : ∀ x ∈ encodeText p.1, (x != 61) = true := fun x hx =>
    bne_iff_ne.mpr (encodeText_no_mark hx).2
  rw [encodePair, List.takeWhile_append_of_pos inName]
  simp

theorem dropWhile_encodePair (p : String × String) :
    (encodePair p).dropWhile (· != 61) = 61 :: encodeText p.2 := by
  have inName : ∀ x ∈ encodeText p.1, (x != 61) = true := fun x hx =>
    bne_iff_ne.mpr (encodeText_no_mark hx).2
  rw [encodePair, List.dropWhile_append_of_pos inName]
  simp

/-- **A pair comes back**: its first equals sign is the one between name and value. -/
theorem decodePair_encodePair (p : String × String) : decodePair (encodePair p) = p := by
  simp only [decodePair, takeWhile_encodePair, dropWhile_encodePair, List.drop_succ_cons,
    List.drop_zero, unescape_encodeText, Utf8.decodeLossy_encode]

/-! ## §4. All pairs. -/

theorem splitAt_of_not_mem {mark : UInt8} {piece : List UInt8} (h : mark ∉ piece) :
    splitAt mark piece = [piece] := by
  induction piece with
  | nil => rfl
  | cons b rest ih =>
    obtain ⟨other, more⟩ := List.ne_and_not_mem_of_not_mem_cons h
    rw [splitAt, if_neg (Ne.symm other), ih more]

theorem splitAt_append {mark : UInt8} {piece : List UInt8} (h : mark ∉ piece) (rest : List UInt8) :
    splitAt mark (piece ++ mark :: rest) = piece :: splitAt mark rest := by
  induction piece with
  | nil => rw [List.nil_append, splitAt, if_pos rfl]
  | cons b piece ih =>
    obtain ⟨other, more⟩ := List.ne_and_not_mem_of_not_mem_cons h
    rw [List.cons_append, splitAt, if_neg (Ne.symm other), ih more]

/-- **The pairs come apart where they were joined.** -/
theorem splitAt_encode {pairs : List (String × String)} (some_pair : pairs ≠ []) :
    splitAt 38 (encode pairs) = pairs.map encodePair := by
  induction pairs with
  | nil => exact absurd rfl some_pair
  | cons p rest ih =>
    have whole := encodePair_no_ampersand p
    cases rest with
    | nil => exact splitAt_of_not_mem whole
    | cons q rest =>
      rw [encode, splitAt_append whole, ih (List.cons_ne_nil q rest)]
      rfl

/-- **Reading a form gives back the pairs that were written, in order.** -/
theorem decode_encode (pairs : List (String × String)) : decode (encode pairs) = pairs := by
  -- a form without pairs is an empty piece, which the reader leaves out; no pair is one
  by_cases empty : pairs = []
  · rw [empty]
    rfl
  have pieces : (pairs.map encodePair).filter (· ≠ []) = pairs.map encodePair := by
    rw [List.filter_eq_self]
    intro piece hp
    obtain ⟨p, -, rfl⟩ := List.mem_map.mp hp
    exact decide_eq_true (encodePair_ne_nil p)
  have back : decodePair ∘ encodePair = id := funext decodePair_encodePair
  rw [decode, splitAt_encode empty, pieces, List.map_map, back, List.map_id]

/-! ## §5. Reading strictly. -/

/-- Name and value of a piece, if both are UTF-8. -/
def readPair? (piece : List UInt8) : Option (String × String) := do
  let name ← Utf8.decode? (unescape (piece.takeWhile (· != 61)))
  let value ← Utf8.decode? (unescape ((piece.dropWhile (· != 61)).drop 1))
  some (name, value)

/-- **The pairs of a form, read strictly**: every piece is a pair, and nothing is replaced. -/
def read? (bytes : List UInt8) : Option (List (String × String)) :=
  (splitAt 38 bytes).mapM readPair?

theorem readPair?_encodePair (p : String × String) : readPair? (encodePair p) = some p := by
  simp only [readPair?, takeWhile_encodePair, dropWhile_encodePair, List.drop_succ_cons,
    List.drop_zero, unescape_encodeText, Utf8.decode?_encode]
  rfl

/-- **A strict reader gets the same pairs.** -/
theorem read?_encode {pairs : List (String × String)} (some_pair : pairs ≠ []) :
    read? (encode pairs) = some pairs := by
  have back : readPair? ∘ encodePair = (pure : _ → Option (String × String)) :=
    funext readPair?_encodePair
  rw [read?, splitAt_encode some_pair, List.mapM_map, back, List.mapM_pure]
  exact congrArg some (List.map_id pairs)

/-- The values of a name, in order. -/
def valuesOf (name : String) (pairs : List (String × String)) : List String :=
  (pairs.filter (·.1 == name)).map (·.2)

/-- The pairs of those fields that have a value. -/
def present (fields : List (String × Option String)) : List (String × String) :=
  fields.filterMap fun f => f.2.map (f.1, ·)

theorem valuesOf_present_of_not_mem {name : String} {fields : List (String × Option String)}
    (h : name ∉ fields.map (·.1)) : valuesOf name (present fields) = [] := by
  unfold valuesOf
  rw [List.map_eq_nil_iff, List.filter_eq_nil_iff]
  intro pair hp same
  obtain ⟨field, hf, made⟩ := List.mem_filterMap.mp hp
  obtain ⟨value, -, rfl⟩ := Option.map_eq_some_iff.mp made
  exact h (List.mem_map.mpr ⟨field, hf, beq_iff_eq.mp same⟩)

/-- **Each field has its own value and no other**, if no two have the same name. -/
theorem valuesOf_present {fields : List (String × Option String)}
    (distinct : (fields.map (·.1)).Nodup) {name : String} {value : Option String}
    (h : (name, value) ∈ fields) : valuesOf name (present fields) = value.toList := by
  induction fields with
  | nil => cases h
  | cons field rest ih =>
    obtain ⟨other, distinct⟩ := List.nodup_cons.mp distinct
    rcases List.mem_cons.mp h with rfl | later
    · have none_later := valuesOf_present_of_not_mem other
      unfold valuesOf present at none_later ⊢
      cases value with
      | none => exact none_later
      | some value => simp [none_later]
    · have differ : field.1 ≠ name := by
        rintro rfl
        exact other (List.mem_map.mpr ⟨(field.1, value), later, rfl⟩)
      have found := ih distinct later
      obtain ⟨first, content⟩ := field
      unfold valuesOf present at found ⊢
      cases content with
      | none => exact found
      | some content => simp [differ, found]

end WorkloadIdentity.Form
