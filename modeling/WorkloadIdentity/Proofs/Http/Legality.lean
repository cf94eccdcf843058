/-
  WorkloadIdentity.Proofs.Http.Legality ──── **WHICH TEXTS MAKE A HEADER.**

  Names and values are checked byte by byte.  What may stand in them can be told by characters
  instead, which is how a reader looks at them: all bytes of a character above ASCII are above
  ASCII, so none of them may stand in a name, and each of them may stand in a value.

  Main results:
    * `HeaderName.ofString?_eq_some_iff`, `HeaderValue.ofString?_eq_some_iff` — what is legal
    * `SubjectSource.urlHeaders_eq_ok_iff` — headers from a list of texts: all of them, or none
    * `bearerHeaders_of_legal`, `bearerHeaders_of_illegal` — when there are headers for a token
-/
import WorkloadIdentity.Proofs.Request.Signing
import WorkloadIdentity.Proofs.Text.Utf8RoundTrip
import WorkloadIdentity.Subject.Source

namespace WorkloadIdentity

/-! ## §1. Names. -/

namespace HeaderName

/-- The marks that may stand in a name. -/
def marks : List Char :=
  ['!', '#', '$', '%', '&', '\'', '*', '+', '-', '.', '^', '_', '\x60', '|', '~']

/-- Whether a character may stand in a name: a letter, a digit or one of the marks. -/
def isNameChar (c : Char) : Bool := c.isAlphanum || marks.contains c

/-- **A legal name**: letters, digits and marks, at least one and not too many. -/
structure Legal (s : String) : Prop where
  /-- There is something to it. -/
  filled : s ≠ ""
  /-- It is not too long. -/
  length : s.length ≤ maxLength
  /-- Its characters. -/
  chars : ∀ c ∈ s.toList, isNameChar c = true

instance (s : String) : Decidable (Legal s) :=
  decidable_of_iff (s ≠ "" ∧ s.length ≤ maxLength ∧ s.toList.all isNameChar = true)
    ⟨fun ⟨filled, length, chars⟩ => ⟨filled, length, List.all_eq_true.mp chars⟩,
      fun legal => ⟨legal.filled, legal.length, List.all_eq_true.mpr legal.chars⟩⟩

theorem isToken_ascii : ∀ n < 128, isToken (UInt8.ofNat n) = isNameChar (Char.ofNat n) := by decide

theorem lower_ascii : ∀ n < 128, lower (Char.ofNat n) = (Char.ofNat n).toLower := by decide

/-- No character above ASCII may stand in a name. -/
theorem ascii_of_isNameChar {c : Char} (h : isNameChar c = true) : c.toNat < 128 := by
  rcases Bool.or_eq_true_iff.mp h with letter | mark
  · have ranges : (c.isUpper || c.isLower || c.isDigit) = true := letter
    rcases Bool.or_eq_true_iff.mp ranges with cased | digit
    · rcases Bool.or_eq_true_iff.mp cased with upper | lower
      · have below : c.toNat ≤ 90 := (of_decide_eq_true upper).2
        omega
      · have below : c.toNat ≤ 122 := of_decide_eq_true (Bool.and_eq_true_iff.mp lower).2
        omega
    · have below : c.toNat ≤ 57 := of_decide_eq_true (Bool.and_eq_true_iff.mp digit).2
      omega
  · have small : marks.all (fun m => m.toNat < 128) = true := by decide
    exact of_decide_eq_true (List.all_eq_true.mp small c (List.contains_iff_mem.mp mark))

theorem not_isToken_high :
    ∀ n < 256, 128 ≤ n → isToken (UInt8.ofNat n) = false := by decide +kernel

/-- A character may stand in a name exactly if all of its bytes may. -/
theorem forall_isToken_iff (c : Char) :
    (∀ b ∈ String.utf8EncodeChar c, isToken b = true) ↔ isNameChar c = true := by
  have high : ∀ b : UInt8, 128 ≤ b.toNat → (isToken b = true ↔ False) := by
    intro b above
    have other := not_isToken_high b.toNat b.toNat_lt above
    rw [UInt8.ofNat_toNat] at other
    rw [other]
    exact ⟨nofun, False.elim⟩
  rw [Utf8.forall_utf8EncodeChar_iff high]
  split
  · rename_i ascii
    rw [isToken_ascii c.toNat ascii, Char.ofNat_toNat]
  · rename_i other
    exact ⟨False.elim, fun may => other (ascii_of_isNameChar may)⟩

/-- The letters of a name are put into lower case. -/
theorem map_lower {s : String} (chars : ∀ c ∈ s.toList, isNameChar c = true) :
    String.ofList (s.toList.map lower) = s.toLower := by
  have same : s.toList.map lower = s.toList.map Char.toLower := by
    refine List.map_congr_left fun c member => ?_
    have lowered := lower_ascii c.toNat (ascii_of_isNameChar (chars c member))
    rw [Char.ofNat_toNat] at lowered
    exact lowered
  rw [same, ← String.toList_map, String.ofList_toList]
  rfl

/-- **A text is a name exactly if it is legal**, and then it is the name in lower case. -/
theorem ofString?_eq_some_iff {s n : String} :
    ofString? s = some n ↔ Legal s ∧ n = s.toLower := by
  have bytes := Utf8.all_encode_iff forall_isToken_iff s
  have ascii (chars : ∀ c ∈ s.toList, isNameChar c = true) : ∀ c ∈ s.toList, c.toNat < 128 :=
    fun c member => ascii_of_isNameChar (chars c member)
  unfold ofString?
  dsimp only
  constructor
  · intro made
    split at made
    · rename_i allowed
      obtain ⟨filled, short, tokens⟩ := allowed
      have chars := bytes.mp tokens
      rw [Utf8.length_encode_ascii (ascii chars)] at short
      cases made
      exact ⟨⟨mt Utf8.encode_eq_nil_iff.mpr filled, short, chars⟩, map_lower chars⟩
    · cases made
  · rintro ⟨legal, rfl⟩
    have short := legal.length
    rw [← Utf8.length_encode_ascii (ascii legal.chars)] at short
    rw [if_pos ⟨mt Utf8.encode_eq_nil_iff.mp legal.filled, short, bytes.mpr legal.chars⟩,
      map_lower legal.chars]

theorem ofString?_of_illegal {s : String} (illegal : ¬ Legal s) : ofString? s = none :=
  Option.eq_none_iff_forall_ne_some.mpr fun _ made => illegal (ofString?_eq_some_iff.mp made).1

end HeaderName

/-! ## §2. Values. -/

namespace HeaderValue

/-- **A legal value**: no control characters but the tab. -/
def Legal (s : String) : Prop := ∀ c ∈ s.toList, c = '\t' ∨ (' ' ≤ c ∧ c ≠ '\x7f')

instance (s : String) : Decidable (Legal s) :=
  List.decidableBAll (fun c => c = '\t' ∨ (' ' ≤ c ∧ c ≠ '\x7f')) s.toList

/-- The value of a text, in the open. -/
def ofText (s : String) : HeaderValue := ⟨Utf8.encode s, false⟩

theorem isAllowed_ascii : ∀ n < 128, isAllowed (UInt8.ofNat n) = true ↔
    Char.ofNat n = '\t' ∨ (' ' ≤ Char.ofNat n ∧ Char.ofNat n ≠ '\x7f') := by decide

theorem isAllowed_high : ∀ n < 256, 128 ≤ n → isAllowed (UInt8.ofNat n) = true := by
  decide +kernel

/-- A character may stand in a value exactly if all of its bytes may. -/
theorem forall_isAllowed_iff (c : Char) :
    (∀ b ∈ String.utf8EncodeChar c, isAllowed b = true) ↔ c = '\t' ∨ (' ' ≤ c ∧ c ≠ '\x7f') := by
  have high : ∀ b : UInt8, 128 ≤ b.toNat → (isAllowed b = true ↔ True) := by
    intro b above
    have may := isAllowed_high b.toNat b.toNat_lt above
    rw [UInt8.ofNat_toNat] at may
    exact iff_true_intro may
  rw [Utf8.forall_utf8EncodeChar_iff high]
  split
  · rename_i ascii
    rw [isAllowed_ascii c.toNat ascii, Char.ofNat_toNat]
  · rename_i other
    have above : 128 ≤ c.toNat := Nat.le_of_not_lt other
    refine iff_of_true trivial (.inr ⟨?_, ?_⟩)
    · exact Char.le_def.mpr (Nat.le_trans (by decide) above)
    · rintro rfl
      exact other (by decide)

/-- **A text is a value exactly if it is legal**, and then it is the value as it stands. -/
theorem ofString?_eq_some_iff {s : String} {v : HeaderValue} :
    ofString? s = some v ↔ Legal s ∧ v = ofText s := by
  have bytes := Utf8.all_encode_iff forall_isAllowed_iff s
  unfold ofString?
  dsimp only
  constructor
  · intro made
    split at made
    · rename_i allowed
      cases made
      exact ⟨bytes.mp allowed, rfl⟩
    · cases made
  · rintro ⟨legal, rfl⟩
    exact if_pos (bytes.mpr legal)

theorem ofString?_of_illegal {s : String} (illegal : ¬ Legal s) : ofString? s = none :=
  Option.eq_none_iff_forall_ne_some.mpr fun _ made => illegal (ofString?_eq_some_iff.mp made).1

end HeaderValue

/-! ## §3. Headers from texts. -/

/-- The header of a name and a value. -/
def Headers.entry (p : String × String) : String × HeaderValue := (p.1.toLower, .ofText p.2)

/-- **Names and values that make headers.** -/
def Headers.AllLegal (pairs : List (String × String)) : Prop :=
  ∀ p ∈ pairs, HeaderName.Legal p.1 ∧ HeaderValue.Legal p.2

instance (pairs : List (String × String)) : Decidable (Headers.AllLegal pairs) :=
  inferInstanceAs (Decidable (∀ p ∈ pairs, _))

namespace SubjectSource

/-- **Headers from a list of texts**: each pair is one more header, or one of them is not legal. -/
theorem urlHeaders_eq_ok_iff {pairs : List (String × String)} {h : Headers} :
    urlHeaders pairs = .ok h ↔ Headers.AllLegal pairs ∧ h = ⟨pairs.map Headers.entry⟩ := by
  have added : ∀ before : Headers, urlHeaders.add before pairs = .ok h ↔
      Headers.AllLegal pairs ∧ h = ⟨before.toList ++ pairs.map Headers.entry⟩ := by
    unfold Headers.AllLegal
    induction pairs with
    | nil =>
      intro before
      simp [urlHeaders.add, eq_comm]
    | cons p rest ih =>
      intro before
      obtain ⟨name, value⟩ := p
      rw [List.forall_mem_cons]
      dsimp only [urlHeaders.add]
      -- the first pair decides alone whether the others are looked at
      by_cases legalName : HeaderName.Legal name
      · rw [HeaderName.ofString?_eq_some_iff.mpr ⟨legalName, rfl⟩]
        by_cases legalValue : HeaderValue.Legal value
        · rw [HeaderValue.ofString?_eq_some_iff.mpr ⟨legalValue, rfl⟩]
          dsimp only
          rw [ih]
          simp [legalName, legalValue, Headers.append, Headers.entry]
        · rw [HeaderValue.ofString?_of_illegal legalValue]
          refine ⟨fun made => ?_, fun both => absurd both.1.1.2 legalValue⟩
          cases made
      · rw [HeaderName.ofString?_of_illegal legalName]
        refine ⟨fun made => ?_, fun both => absurd both.1.1.1 legalName⟩
        cases made
  exact added Headers.empty

/-- Whichever is not legal, it is the source that is to blame. -/
theorem category_of_urlHeaders {pairs : List (String × String)} {e : ConfigError}
    (failed : urlHeaders pairs = .error e) : e.category = .invalidSource := by
  unfold urlHeaders at failed
  revert failed
  generalize Headers.empty = before
  intro failed
  induction pairs generalizing before with
  | nil => cases failed
  | cons p rest ih =>
    obtain ⟨name, value⟩ := p
    dsimp only [urlHeaders.add] at failed
    split at failed
    · cases failed
      rfl
    · cases failed
      rfl
    · exact ih _ failed

end SubjectSource

/-! ## §4. Headers for a token. -/

/-- A token and who pays can be sent. -/
structure Signable (token : String) (quota : Option String) : Prop where
  /-- The token. -/
  token : HeaderValue.Legal token
  /-- Who pays. -/
  quota : ∀ project, quota = some project → HeaderValue.Legal project

/-- The headers for a token, in order. -/
def signature (token : String) (quota : Option String) : List (String × HeaderValue) :=
  (authorizationName, (HeaderValue.ofText ("Bearer " ++ token)).hidden) ::
    quota.toList.map fun project => (quotaName, .ofText project)

theorem bearer_blank : bearer ++ " " = "Bearer " := by decide

theorem legal_bearer_iff {token : String} :
    HeaderValue.Legal ("Bearer " ++ token) ↔ HeaderValue.Legal token := by
  have word : HeaderValue.Legal "Bearer " := by decide
  unfold HeaderValue.Legal
  rw [String.toList_append, List.forall_mem_append]
  exact and_iff_right word

/-- A legal token makes a value, which is not to be shown. -/
theorem bearerValue_of_legal {token : String} (legal : HeaderValue.Legal token) :
    bearerValue token = .ok (HeaderValue.ofText ("Bearer " ++ token)).hidden := by
  unfold bearerValue
  rw [bearer_blank, HeaderValue.ofString?_eq_some_iff.mpr ⟨legal_bearer_iff.mpr legal, rfl⟩]

theorem bearerValue_of_illegal {token : String} (illegal : ¬ HeaderValue.Legal token) :
    bearerValue token = .error badHeaderValue := by
  unfold bearerValue
  rw [bearer_blank, HeaderValue.ofString?_of_illegal (mt legal_bearer_iff.mp illegal)]

/-- **There are headers for a token** that can be sent, and they are these. -/
theorem bearerHeaders_of_legal {token : String} {quota : Option String}
    (legal : Signable token quota) : bearerHeaders token quota = .ok ⟨signature token quota⟩ := by
  have value := bearerValue_of_legal legal.token
  cases quota with
  | none => exact bearerHeaders_none value
  | some project =>
    exact bearerHeaders_paid value
      (HeaderValue.ofString?_eq_some_iff.mpr ⟨legal.quota project rfl, rfl⟩)

/-- **There are none for any other**, whichever of the two cannot be sent. -/
theorem bearerHeaders_of_illegal {token : String} {quota : Option String}
    (illegal : ¬ Signable token quota) : bearerHeaders token quota = .error badHeaderValue := by
  by_cases legal : HeaderValue.Legal token
  · cases quota with
    | none => exact absurd ⟨legal, nofun⟩ illegal
    | some project =>
      have unpaid : ¬ HeaderValue.Legal project := fun paid =>
        illegal ⟨legal, fun _ same => Option.some.inj same ▸ paid⟩
      exact bearerHeaders_unpaid (bearerValue_of_legal legal)
        (HeaderValue.ofString?_of_illegal unpaid)
  · exact bearerHeaders_error (bearerValue_of_illegal legal)

end WorkloadIdentity
