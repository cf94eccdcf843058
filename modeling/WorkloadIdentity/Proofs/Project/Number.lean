/-
  WorkloadIdentity.Proofs.Project.Number ──── **THE NUMBER IN AN AUDIENCE, BY SEGMENTS.**

  The number is searched for as a text: after each `/projects/`, and occurrences are not looked for
  inside one another.  It can be told by segments instead, which is how an audience is read: it is
  what stands after the first segment `projects` that has something after it.  An occurrence that
  begins with the last character of another one is never missed, because the segment between them
  is empty, and nothing is.

  Main results:
    * `firstNumber_eq`           — occurrences inside one another make no difference
    * `firstNumber_eq_segments`  — the search in a text is a search among its segments
    * `afterMarks_encodeChars`   — in the bytes of the text the same occurrences are found
    * `projectNumber?_least`     — the number in every audience
-/
import Mathlib.Data.List.Infix
import WorkloadIdentity.Project
import WorkloadIdentity.Proofs.Text.Utf8RoundTrip

namespace WorkloadIdentity

/-! ## §1. Occurrences. -/

section Occurrences

variable {α : Type} [BEq α] {mark : List α}

/-- What follows each occurrence of a mark in a text, in order, wherever it begins. -/
def afterEvery (mark : List α) : List α → List (List α)
  | [] => []
  | c :: rest =>
    if mark.isPrefixOf (c :: rest) then
      (c :: rest).drop mark.length :: afterEvery mark rest
    else afterEvery mark rest

/-- The rest of an occurrence is passed over. -/
theorem afterMarks_inside (inside : Nat) (text : List α) :
    afterMarks mark inside text = afterMarks mark 0 (text.drop inside) := by
  induction inside generalizing text with
  | zero => rfl
  | succ inside ih =>
    cases text with
    | nil => simp [afterMarks]
    | cons c rest =>
      show afterMarks mark inside rest = _
      rw [ih, List.drop_succ_cons]

variable [LawfulBEq α]

/-- After an occurrence the search goes on behind it. -/
theorem afterMarks_found (start : α) (others rest : List α) :
    afterMarks (start :: others) 0 (start :: others ++ rest)
      = rest :: afterMarks (start :: others) 0 rest := by
  have found : (start :: others).isPrefixOf (start :: (others ++ rest)) = true := by
    rw [List.isPrefixOf_iff_prefix]
    exact List.prefix_append (start :: others) rest
  show afterMarks _ 0 (start :: (others ++ rest)) = _
  rw [afterMarks, if_pos found, afterMarks_inside]
  simp

theorem afterMarks_missed {c : α} {rest : List α} (missed : ¬ mark <+: c :: rest) :
    afterMarks mark 0 (c :: rest) = afterMarks mark 0 rest := by
  rw [← List.isPrefixOf_iff_prefix] at missed
  rw [afterMarks, if_neg missed]

/-- No occurrence begins with another item than the mark. -/
theorem afterMarks_pass {start : α} {others piece : List α} (other : start ∉ piece)
    (rest : List α) :
    afterMarks (start :: others) 0 (piece ++ rest) = afterMarks (start :: others) 0 rest := by
  induction piece with
  | nil => rfl
  | cons c piece ih =>
    rw [List.mem_cons, not_or] at other
    rw [List.cons_append, afterMarks_missed, ih other.2]
    intro found
    exact other.1 (List.cons_prefix_cons.mp found).1

theorem afterEvery_found (start : α) (others rest : List α) :
    afterEvery (start :: others) (start :: others ++ rest)
      = rest :: afterEvery (start :: others) (others ++ rest) := by
  have found : (start :: others).isPrefixOf (start :: (others ++ rest)) = true := by
    rw [List.isPrefixOf_iff_prefix]
    exact List.prefix_append (start :: others) rest
  show afterEvery _ (start :: (others ++ rest)) = _
  rw [afterEvery, if_pos found]
  simp

theorem afterEvery_missed {c : α} {rest : List α} (missed : ¬ mark <+: c :: rest) :
    afterEvery mark (c :: rest) = afterEvery mark rest := by
  rw [← List.isPrefixOf_iff_prefix] at missed
  rw [afterEvery, if_neg missed]

theorem afterEvery_pass {start : α} {others piece : List α} (other : start ∉ piece)
    (rest : List α) :
    afterEvery (start :: others) (piece ++ rest) = afterEvery (start :: others) rest := by
  induction piece with
  | nil => rfl
  | cons c piece ih =>
    rw [List.mem_cons, not_or] at other
    rw [List.cons_append, afterEvery_missed, ih other.2]
    intro found
    exact other.1 (List.cons_prefix_cons.mp found).1

end Occurrences

/-! ## §2. The first number. -/

/-- The word that stands before a number. -/
def projectsWord : List Char := "projects".toList

theorem projectsMark_eq : projectsMark = '/' :: (projectsWord ++ ['/']) := rfl

theorem mark_prefix_iff {c : Char} {rest : List Char} :
    projectsMark <+: c :: rest ↔ c = '/' ∧ ∃ later, rest = projectsWord ++ '/' :: later := by
  rw [projectsMark_eq, List.cons_prefix_cons, List.prefix_iff_exists_append_eq]
  simp [eq_comm]

theorem slash_not_mem_projectsWord : '/' ∉ projectsWord := by decide

/-- The first number, if occurrences are looked for inside one another too. -/
def firstNumber? (text : List Char) : Option (List Char) :=
  (afterEvery projectsMark text).findSome? segmentAfter?

/-- What is no slash begins no occurrence. -/
theorem firstNumber?_pass {piece : List Char} (h : '/' ∉ piece) (rest : List Char) :
    firstNumber? (piece ++ rest) = firstNumber? rest := by
  unfold firstNumber?
  rw [projectsMark_eq, afterEvery_pass h]

/-- After an occurrence comes its number, or the search goes on behind the word. -/
theorem firstNumber?_found (rest : List Char) :
    firstNumber? (projectsMark ++ rest) = (segmentAfter? rest).or (firstNumber? ('/' :: rest)) := by
  unfold firstNumber?
  rw [projectsMark_eq, afterEvery_found, List.findSome?_cons, List.append_assoc,
    afterEvery_pass slash_not_mem_projectsWord]
  cases segmentAfter? rest <;> rfl

theorem firstNumber?_missed {c : Char} {rest : List Char}
    (missed : ¬ projectsMark <+: c :: rest) : firstNumber? (c :: rest) = firstNumber? rest := by
  unfold firstNumber?
  rw [afterEvery_missed missed]

/-- After a slash without a segment, no occurrence begins with this slash. -/
theorem firstNumber?_slash {rest : List Char} (empty : segmentAfter? rest = none) :
    firstNumber? ('/' :: rest) = firstNumber? rest := by
  refine firstNumber?_missed fun found => ?_
  -- the word would be the segment
  obtain ⟨-, later, rfl⟩ := mark_prefix_iff.mp found
  cases empty

/-- **Occurrences inside one another make no difference** for the first number. -/
theorem firstNumber_eq (text : List Char) : projectNumberIn? text = firstNumber? text := by
  induction length : text.length using Nat.strong_induction_on generalizing text with
  | _ n ih =>
  by_cases found : projectsMark <+: text
  · obtain ⟨rest, rfl⟩ := found
    have shorter : projectNumberIn? rest = firstNumber? rest :=
      ih rest.length (by rw [← length, List.length_append]; exact Nat.lt_add_of_pos_left (by decide))
        rest rfl
    unfold projectNumberIn? at shorter ⊢
    rw [firstNumber?_found, projectsMark_eq, afterMarks_found, List.findSome?_cons,
      ← projectsMark_eq, shorter]
    cases empty : segmentAfter? rest with
    | some number => rfl
    | none => exact (firstNumber?_slash empty).symm
  · cases text with
    | nil => rfl
    | cons c rest =>
      have shorter := ih rest.length (by rw [← length]; exact Nat.lt_succ_self _) rest rfl
      rw [firstNumber?_missed found, ← shorter]
      unfold projectNumberIn?
      rw [afterMarks_missed found]

/-! ## §3. Segments. -/

/-- What stands after the first segment `projects` that has something after it. -/
def numberAmong? : List (List Char) → Option (List Char)
  | word :: number :: rest =>
    if word = projectsWord ∧ number ≠ [] then some number else numberAmong? (number :: rest)
  | _ => none

/-- What comes up to the next slash is the first segment. -/
theorem splitOn_slash_eq_cons (text : List Char) :
    ∃ rest, text.splitOn '/' = text.takeWhile (· != '/') :: rest := by
  induction text with
  | nil => exact ⟨[], rfl⟩
  | cons c text ih =>
    obtain ⟨rest, split⟩ := ih
    by_cases slash : c = '/'
    · exact ⟨text.splitOn '/', by simp [List.splitOn_cons_eq_if_modifyHead, slash]⟩
    · exact ⟨rest, by simp [List.splitOn_cons_eq_if_modifyHead, slash, split]⟩

/-- With the word before it, the first segment is the number unless it is empty. -/
theorem numberAmong?_word (text : List Char) :
    numberAmong? (projectsWord :: text.splitOn '/')
      = (segmentAfter? text).or (numberAmong? (text.splitOn '/')) := by
  obtain ⟨rest, split⟩ := splitOn_slash_eq_cons text
  rw [split, numberAmong?]
  unfold segmentAfter?
  cases text.takeWhile (· != '/') <;> simp

theorem numberAmong?_other {word text : List Char} (other : word ≠ projectsWord) :
    numberAmong? (word :: text.splitOn '/') = numberAmong? (text.splitOn '/') := by
  obtain ⟨rest, split⟩ := splitOn_slash_eq_cons text
  rw [split, numberAmong?, if_neg (fun both => other both.1)]

/-- A segment with slashes around it is an occurrence exactly if it is the word. -/
theorem eq_word_of_found {piece rest : List Char} (whole : '/' ∉ piece)
    (found : projectsMark <+: '/' :: (piece ++ '/' :: rest)) : piece = projectsWord := by
  obtain ⟨-, later, same⟩ := mark_prefix_iff.mp found
  have parts := congrArg (List.splitOn '/') same
  rw [List.splitOn_append_cons_self_of_not_mem whole,
    List.splitOn_append_cons_self_of_not_mem slash_not_mem_projectsWord] at parts
  exact (List.cons.inj parts).1

/-- **The search in a text is a search among its segments**, all but the first one, which has no
slash before it. -/
theorem firstNumber_eq_segments (text : List Char) :
    firstNumber? text = numberAmong? (text.splitOn '/').tail := by
  induction text with
  | nil => rfl
  | cons c rest ih =>
    by_cases slash : c = '/'
    · subst slash
      have tail : (('/' :: rest).splitOn '/').tail = rest.splitOn '/' := by
        simp [List.splitOn_cons_eq_if_modifyHead]
      rw [tail]
      by_cases more : '/' ∈ rest
      · obtain ⟨piece, later, rfl, whole⟩ := List.eq_append_cons_of_mem more
        rw [List.splitOn_append_cons_self_of_not_mem whole] at ih ⊢
        rw [List.tail_cons] at ih
        by_cases word : piece = projectsWord
        · subst word
          rw [numberAmong?_word, ← ih, firstNumber?_pass slash_not_mem_projectsWord,
            ← firstNumber?_found later]
          rfl
        · rw [numberAmong?_other word, ← ih]
          exact firstNumber?_missed fun found => word (eq_word_of_found whole found)
      · -- one more slash would be needed
        have single : rest.splitOn '/' = [rest] := List.splitOn_eq_singleton more
        rw [firstNumber?_missed, ih, single]
        · rfl
        · intro found
          obtain ⟨-, later, rfl⟩ := mark_prefix_iff.mp found
          exact more (List.mem_append_right _ List.mem_cons_self)
    · rw [← List.singleton_append, firstNumber?_pass (by simpa using Ne.symm slash), ih]
      simp [List.splitOn_cons_eq_if_modifyHead, slash]

/-- **A segment is the word `projects`, and the next one is a number.** -/
structure NumberAt (segments : List (List Char)) (i : Nat) (number : List Char) : Prop where
  /-- The word. -/
  word : segments[i]? = some projectsWord
  /-- The number. -/
  next : segments[i + 1]? = some number
  /-- There is something to it. -/
  filled : number ≠ []

theorem numberAt_cons_succ {segment number : List Char} {segments : List (List Char)} {i : Nat} :
    NumberAt (segment :: segments) (i + 1) number ↔ NumberAt segments i number :=
  ⟨fun h => ⟨h.word, h.next, h.filled⟩, fun h => ⟨h.word, h.next, h.filled⟩⟩

theorem NumberAt.unique {segments : List (List Char)} {i : Nat} {number other : List Char}
    (h : NumberAt segments i number) (h' : NumberAt segments i other) : number = other :=
  Option.some.inj (h.next.symm.trans h'.next)

/-- No number stands before this place. -/
def NoneBefore (segments : List (List Char)) (i : Nat) : Prop :=
  ∀ j < i, ∀ other, ¬ NumberAt segments j other

theorem noneBefore_succ {segment : List Char} {segments : List (List Char)} {i : Nat}
    (first : ∀ other, ¬ NumberAt (segment :: segments) 0 other) (h : NoneBefore segments i) :
    NoneBefore (segment :: segments) (i + 1) := by
  intro j below other there
  cases j with
  | zero => exact first other there
  | succ j => exact h j (Nat.lt_of_succ_lt_succ below) other (numberAt_cons_succ.mp there)

/-- **A search among segments finds the first number**, or there is none. -/
theorem numberAmong?_cases (segments : List (List Char)) :
    (∃ i number, numberAmong? segments = some number ∧ NumberAt segments i number ∧
      NoneBefore segments i) ∨
    (numberAmong? segments = none ∧ ∀ i number, ¬ NumberAt segments i number) := by
  induction segments using numberAmong?.induct with
  | case1 word number rest here =>
    obtain ⟨rfl, filled⟩ := here
    refine .inl ⟨0, number, ?_, ⟨rfl, rfl, filled⟩, fun j below => absurd below (Nat.not_lt_zero j)⟩
    rw [numberAmong?, if_pos ⟨rfl, filled⟩]
  | case2 word number rest elsewhere ih =>
    have first (other : List Char) : ¬ NumberAt (word :: number :: rest) 0 other := by
      rintro ⟨same, next, filled⟩
      cases next
      exact elsewhere ⟨Option.some.inj same, filled⟩
    rw [numberAmong?, if_neg elsewhere]
    rcases ih with ⟨i, found, result, there, noneBefore⟩ | ⟨result, nowhere⟩
    · exact .inl ⟨i + 1, found, result, numberAt_cons_succ.mpr there,
        noneBefore_succ first noneBefore⟩
    · refine .inr ⟨result, fun i other there => ?_⟩
      cases i with
      | zero => exact first other there
      | succ i => exact nowhere i other (numberAt_cons_succ.mp there)
  | case3 segments short =>
    -- with fewer than two segments nothing can follow the word
    refine .inr ⟨?_, fun i number there => ?_⟩
    · unfold numberAmong?
      split
      · exact absurd rfl (short _ _ _)
      · rfl
    · obtain ⟨bound, -⟩ := List.getElem?_eq_some_iff.mp there.next
      match segments, short with
      | [], _ => cases bound
      | [_], _ => simp at bound
      | word :: number :: rest, short => exact short word number rest rfl

/-! ## §4. Bytes. -/

section Bytes

open Utf8 (encodeChars encodeChars_cons encodeChars_append utf8EncodeChar_ascii
  high_of_mem_utf8EncodeChar toNat_byte)

theorem utf8EncodeChar_eq_cons (c : Char) : ∃ b rest, String.utf8EncodeChar c = b :: rest := by
  unfold String.utf8EncodeChar
  dsimp only
  split
  · exact ⟨_, _, rfl⟩
  split
  · exact ⟨_, _, rfl⟩
  split <;> exact ⟨_, _, rfl⟩

variable {mark : List Char}

/-- **The bytes of an ASCII text stand where the text stands**: no character but an ASCII one has
such a byte. -/
theorem prefix_of_encodeChars (ascii : ∀ c ∈ mark, c.toNat < 128) {text : List Char}
    (h : encodeChars mark <+: encodeChars text) : mark <+: text := by
  induction mark generalizing text with
  | nil => exact List.nil_prefix
  | cons m mark ih =>
    obtain ⟨small, ascii⟩ := List.forall_mem_cons.mp ascii
    have code : (UInt8.ofNat m.toNat).toNat = m.toNat := toNat_byte (by omega)
    rw [encodeChars_cons, utf8EncodeChar_ascii small] at h
    cases text with
    | nil => simp at h
    | cons c text =>
      rw [encodeChars_cons] at h
      by_cases plain : c.toNat < 128
      · rw [utf8EncodeChar_ascii plain] at h
        obtain ⟨same, later⟩ := List.cons_prefix_cons.mp h
        have codes := congrArg UInt8.toNat same
        rw [code, toNat_byte (by omega)] at codes
        exact List.cons_prefix_cons.mpr ⟨Char.toNat_inj.mp codes, ih ascii later⟩
      · obtain ⟨b, rest, bytes⟩ := utf8EncodeChar_eq_cons c
        have high := high_of_mem_utf8EncodeChar (Nat.le_of_not_lt plain) (b := b) (by simp [bytes])
        rw [bytes] at h
        have same := (List.cons_prefix_cons.mp h).1
        rw [← same, code] at high
        omega

/-- **In the bytes of a text the same occurrences are found**, and what follows them are the bytes
of what follows them in the text. -/
theorem afterMarks_encodeChars {start : Char} {others : List Char}
    (ascii : ∀ c ∈ start :: others, c.toNat < 128) (text : List Char) :
    afterMarks (encodeChars (start :: others)) 0 (encodeChars text)
      = (afterMarks (start :: others) 0 text).map encodeChars := by
  obtain ⟨small, -⟩ := List.forall_mem_cons.mp ascii
  have bytes : encodeChars (start :: others)
      = UInt8.ofNat start.toNat :: encodeChars others := by
    rw [encodeChars_cons, utf8EncodeChar_ascii small, List.singleton_append]
  induction length : text.length using Nat.strong_induction_on generalizing text with
  | _ n ih =>
  by_cases found : start :: others <+: text
  · obtain ⟨rest, rfl⟩ := found
    have less : rest.length < n := by
      rw [← length, List.length_append, List.length_cons]
      omega
    have shorter := ih rest.length less rest rfl
    rw [afterMarks_found, List.map_cons, ← shorter, encodeChars_append, bytes, afterMarks_found]
  · cases text with
    | nil => rfl
    | cons c rest =>
      rw [afterMarks_missed found, ← ih rest.length (by rw [← length]; simp) rest rfl]
      by_cases plain : c.toNat < 128
      · have missed : ¬ encodeChars (start :: others) <+: encodeChars (c :: rest) :=
          fun inBytes => found (prefix_of_encodeChars ascii inBytes)
        rw [encodeChars_cons c, utf8EncodeChar_ascii plain, List.singleton_append] at missed ⊢
        exact afterMarks_missed missed
      · -- the bytes of the character are all too great to begin the mark
        rw [encodeChars_cons c, bytes]
        refine afterMarks_pass (fun inside => ?_) _
        have high := high_of_mem_utf8EncodeChar (Nat.le_of_not_lt plain) inside
        rw [toNat_byte (by omega)] at high
        omega

end Bytes

/-! ## §5. Audiences. -/

theorem takeWhile_no_slash (text : List Char) : '/' ∉ text.takeWhile (· != '/') := by
  intro inside
  have kept := List.all_eq_true.mp List.all_takeWhile '/' inside
  simp at kept

/-- What is found after a mark is a whole segment. -/
theorem no_slash_of_segmentAfter? {text number : List Char} (h : segmentAfter? text = some number) :
    number ≠ [] ∧ '/' ∉ number := by
  have whole := takeWhile_no_slash text
  unfold segmentAfter? at h
  split at h
  · cases h
  · rename_i filled
    cases h
    exact ⟨filled, whole⟩

/-- **The number of an audience is the one among its segments**, the first of which has no slash
before it. -/
theorem projectNumber?_eq (audience : String) :
    projectNumber? audience
      = (numberAmong? (audience.toList.splitOn '/').tail).map String.ofList := by
  rw [projectNumber?, firstNumber_eq, firstNumber_eq_segments]

theorem numberAt_tail {segments : List (List Char)} {i : Nat} {number : List Char} :
    NumberAt segments.tail i number ↔ NumberAt segments (i + 1) number := by
  cases segments with
  | nil => exact ⟨fun h => (nomatch h.word), fun h => (nomatch h.word)⟩
  | cons first rest => exact numberAt_cons_succ.symm

section Audience

variable {audience : String}

/-- **It is the first number** among the segments that have a slash before them. -/
theorem projectNumber?_eq_some_iff {number : String} :
    projectNumber? audience = some number ↔
      ∃ i, 1 ≤ i ∧ NumberAt (audience.toList.splitOn '/') i number.toList ∧
        ∀ j, 1 ≤ j → j < i → ∀ other, ¬ NumberAt (audience.toList.splitOn '/') j other := by
  rw [projectNumber?_eq]
  rcases numberAmong?_cases (audience.toList.splitOn '/').tail with
    ⟨i, first, result, there, noneBefore⟩ | ⟨result, nowhere⟩
  · rw [result, Option.map_some, Option.some.injEq]
    constructor
    · rintro rfl
      refine ⟨i + 1, Nat.le_add_left 1 i, ?_, fun j positive below other earlier => ?_⟩
      · rw [String.toList_ofList]
        exact numberAt_tail.mp there
      · obtain ⟨j, rfl⟩ := Nat.exists_eq_add_of_le' positive
        exact noneBefore j (Nat.lt_of_succ_lt_succ below) other (numberAt_tail.mpr earlier)
    · rintro ⟨k, positive, here, least⟩
      obtain ⟨k, rfl⟩ := Nat.exists_eq_add_of_le' positive
      -- both places are the least one
      have same : i = k := by
        rcases Nat.lt_trichotomy i k with less | same | greater
        · exact absurd (numberAt_tail.mp there) (least (i + 1) (Nat.le_add_left 1 i) (by omega) _)
        · exact same
        · exact absurd (numberAt_tail.mpr here) (noneBefore k greater _)
      subst same
      rw [there.unique (numberAt_tail.mpr here), String.ofList_toList]
  · rw [result, Option.map_none]
    refine ⟨nofun, ?_⟩
    rintro ⟨k, positive, here, -⟩
    obtain ⟨k, rfl⟩ := Nat.exists_eq_add_of_le' positive
    exact absurd (numberAt_tail.mpr here) (nowhere k _)

theorem projectNumber?_eq_none_iff :
    projectNumber? audience = none ↔
      ∀ i, 1 ≤ i → ∀ number, ¬ NumberAt (audience.toList.splitOn '/') i number := by
  rw [projectNumber?_eq, Option.map_eq_none_iff]
  rcases numberAmong?_cases (audience.toList.splitOn '/').tail with
    ⟨i, first, result, there, -⟩ | ⟨result, nowhere⟩
  · rw [result]
    refine ⟨nofun, fun none => ?_⟩
    exact absurd (numberAt_tail.mp there) (none (i + 1) (Nat.le_add_left 1 i) first)
  · refine ⟨fun _ k positive number here => ?_, fun _ => result⟩
    obtain ⟨k, rfl⟩ := Nat.exists_eq_add_of_le' positive
    exact nowhere k number (numberAt_tail.mpr here)

/-- It is a whole segment, and not an empty one. -/
theorem whole_of_projectNumber? {number : String} (h : projectNumber? audience = some number) :
    number ≠ "" ∧ '/' ∉ number.toList := by
  obtain ⟨segment, inText, rfl⟩ := Option.map_eq_some_iff.mp h
  obtain ⟨rest, -, extracted⟩ := List.exists_of_findSome?_eq_some inText
  obtain ⟨filled, whole⟩ := no_slash_of_segmentAfter? extracted
  rw [String.toList_ofList]
  exact ⟨fun empty => filled (by simpa using congrArg String.toList empty), whole⟩

end Audience

/-- **The number of an audience** is the segment after the first `projects` that has a slash before
it and something after it, and there is none if there is no such segment.  Occurrences of the mark
inside one another make no difference, and the search finds the same in the bytes of the audience
as in its characters. -/
theorem projectNumber?_least (audience : String) :
    (∀ number, projectNumber? audience = some number ↔
      ∃ i, 1 ≤ i ∧ NumberAt (audience.toList.splitOn '/') i number.toList ∧
        ∀ j, 1 ≤ j → j < i → ∀ other, ¬ NumberAt (audience.toList.splitOn '/') j other) ∧
    (projectNumber? audience = none ↔
      ∀ i, 1 ≤ i → ∀ number, ¬ NumberAt (audience.toList.splitOn '/') i number) ∧
    (∀ number, projectNumber? audience = some number → number ≠ "" ∧ '/' ∉ number.toList) ∧
    (afterMarks projectsMark 0 audience.toList).findSome? segmentAfter?
      = (afterEvery projectsMark audience.toList).findSome? segmentAfter? ∧
    afterMarks (Utf8.encodeChars projectsMark) 0 (Utf8.encode audience)
      = (afterMarks projectsMark 0 audience.toList).map Utf8.encodeChars := by
  have ascii : ∀ c ∈ projectsMark, c.toNat < 128 := fun c member =>
    of_decide_eq_true (List.all_eq_true.mp (rfl : projectsMark.all (·.toNat < 128) = true) c member)
  refine ⟨fun number => projectNumber?_eq_some_iff, projectNumber?_eq_none_iff,
    fun number => whole_of_projectNumber?, firstNumber_eq _, ?_⟩
  exact afterMarks_encodeChars ascii audience.toList

/-- An empty segment is no number, and the word itself can be one. -/
example : projectNumber? "//iam/projects//projects/projects/7" = some "projects" := by decide

end WorkloadIdentity
