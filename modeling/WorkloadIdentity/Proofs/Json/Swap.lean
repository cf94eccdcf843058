/-
  WorkloadIdentity.Proofs.Json.Swap ──── **ONE TEXT IN PLACE OF ANOTHER.**

  A field of a record holds a text, and another text is written in its place, as long as it may be
  and in whatever spelling.  All that the reader does before the text is the same, and all that it
  does after it depends on the draft alone; so if the two drafts are related, the records are too,
  and if there is a fault, it is the same fault at another place.

  Main results:
    * `TextRecord.Swap`       — two bodies that differ in the text of one field
    * `TextRecord.Keeps`      — what a relation of drafts has to satisfy
    * `TextRecord.parse_swap` — the two bodies come to related records or to the same fault
-/
import Mathlib.Logic.Relation
import WorkloadIdentity.Proofs.Json.Consumption
import WorkloadIdentity.Proofs.Json.TextRoundTrip

namespace WorkloadIdentity.Json

open Utf8 (encodeChars)

/-! ## §1. Texts in place. -/

/-- Bytes that are read as a text, whatever follows them: blanks, quotes and escapes. -/
def Spells (bytes : List UInt8) (s : String) : Prop :=
  ∀ depth rest, readString depth (bytes ++ rest) = .ok (s, rest)

theorem spells_quoted (s : String) : Spells (encodeChars (quoted s)) s := by
  intro depth rest
  rw [encodeChars_quoted]
  unfold readString
  rw [skipBlanks_cons (by decide)]
  dsimp only
  rw [if_pos (by decide), stringToken_escaped]

variable {σ α : Type}

/-- The end of an object whose fields have been read. -/
def TextRecord.close (r : TextRecord σ α) (s : σ) (rest : List UInt8) :
    Except Failure (α × List UInt8) :=
  match r.finish s with
  | .error m => .error (refused m (afterObject rest))
  | .ok x => .ok (x, afterObject rest)

/-- The rest of an object from the value of a field on. -/
def TextRecord.readOn (r : TextRecord σ α) (depth fuel : Nat) (f : TextField σ) (s : σ) :
    Parse α := fun input => do
  let (s, rest) ← f.read depth s input
  let (s, rest) ← r.readFields depth fuel false s rest
  r.close s rest

/-- **What stands before the value of a field**, or before something that is never read. -/
inductive TextRecord.Before (r : TextRecord σ α) (name : String) (before : List UInt8) : Prop where
  /-- Whatever follows is read as the value of the field. -/
  | value (f : TextField σ) (s : σ) (member : f ∈ r.fields) (named : f.name = name)
      (arrives : ∀ rest, ∃ fuel, rest.length < fuel ∧
        r.read depthBound (before ++ rest) = r.readOn (depthBound - 1) fuel f s rest)
  /-- Whatever follows, the reader has found a fault by then. -/
  | nothing (fault : Fault)
      (fails : ∀ rest, ∃ left, r.read depthBound (before ++ rest) = .error ⟨fault, left⟩)

/-- **Two bodies differ in the text of one field**; both texts are legal. -/
inductive TextRecord.Swap (r : TextRecord σ α) (name : String) (legal : String → Prop) :
    List UInt8 → List UInt8 → Prop where
  /-- One text stands where the other one stands. -/
  | mk {before bytes bytes' : List UInt8} {t t' : String} (place : r.Before name before)
      (spelled : Spells bytes t) (spelled' : Spells bytes' t') (ok : legal t) (ok' : legal t')
      (after : List UInt8) :
      Swap r name legal (before ++ bytes ++ after) (before ++ bytes' ++ after)

/-! ## §2. Related readings. -/

/-- Two readings of one text: the same failure, or related results and the same rest. -/
inductive SameReading {β : Type} (R : β → β → Prop) :
    Except Failure (β × List UInt8) → Except Failure (β × List UInt8) → Prop where
  /-- The same failure. -/
  | failed (f : Failure) : SameReading R (.error f) (.error f)
  /-- Related results. -/
  | read {x x' : β} (h : R x x') (rest : List UInt8) :
      SameReading R (.ok (x, rest)) (.ok (x', rest))

theorem SameReading.of_eq {β : Type} {R : β → β → Prop} (refl : ∀ x, R x x)
    (p : Except Failure (β × List UInt8)) : SameReading R p p := by
  cases p with
  | error f => exact .failed f
  | ok r => exact .read (refl r.1) r.2

theorem SameReading.bind {β γ : Type} {R : β → β → Prop} {Q : γ → γ → Prop}
    {p p' : Except Failure (β × List UInt8)}
    {g g' : β × List UInt8 → Except Failure (γ × List UInt8)} (h : SameReading R p p')
    (next : ∀ x x' rest, R x x' → SameReading Q (g (x, rest)) (g' (x', rest))) :
    SameReading Q (p >>= g) (p' >>= g') := by
  cases h with
  | failed f => exact .failed f
  | read h rest => exact next _ _ rest h

/-- A reading of something else first is the same on both sides. -/
theorem SameReading.after {β γ : Type} {Q : γ → γ → Prop} (p : Except Failure β)
    {g g' : β → Except Failure (γ × List UInt8)} (next : ∀ x, SameReading Q (g x) (g' x)) :
    SameReading Q (p >>= g) (p >>= g') := by
  cases p with
  | error f => exact .failed f
  | ok x => exact next x

/-- Two readings of two texts: the same fault, wherever it is, or related results. -/
inductive SameFault {β : Type} (S : β → β → Prop) : Except Error β → Except Error β → Prop where
  /-- The same fault. -/
  | failed (fault : Fault) (p p' : Position) :
      SameFault S (.error ⟨fault, some p⟩) (.error ⟨fault, some p'⟩)
  /-- Related results. -/
  | read {x x' : β} (h : S x x') : SameFault S (.ok x) (.ok x')

/-! ## §3. Records that keep a relation. -/

section Keeping

variable (name : String) (legal : String → Prop) (R : σ → σ → Prop)

/-- **A field keeps a relation of drafts**: only legal texts in the field of a name make a
difference. -/
structure TextField.Keeps (f : TextField σ) : Prop where
  /-- Its value is taken from the text. -/
  takes : ∀ depth s, Takes (f.read depth s)
  /-- Related drafts both hold it, or neither does. -/
  held : ∀ s s', R s s' → f.held s = f.held s'
  /-- A value that is read into both leaves them related. -/
  read : ∀ s s', R s s' → ∀ depth input,
    SameReading R (f.read depth s input) (f.read depth s' input)
  /-- So do two legal texts, if it is the field of that name. -/
  swap : f.name = name → ∀ (s : σ) (t t' : String), legal t → legal t' → ∃ q q', R q q' ∧
    (∀ bytes, Spells bytes t → ∀ depth rest, f.read depth s (bytes ++ rest) = .ok (q, rest)) ∧
    ∀ bytes, Spells bytes t' → ∀ depth rest, f.read depth s (bytes ++ rest) = .ok (q', rest)

/-- **A record keeps a relation of drafts**, and makes related records of them. -/
structure TextRecord.Keeps (r : TextRecord σ α) (S : α → α → Prop) : Prop where
  /-- Its fields do. -/
  fields : ∀ f ∈ r.fields, f.Keeps name legal R
  /-- Related drafts miss the same field or make related records. -/
  finish : ∀ s s', R s s' → (∃ m, r.finish s = .error m ∧ r.finish s' = .error m) ∨
    ∃ x x', S x x' ∧ r.finish s = .ok x ∧ r.finish s' = .ok x'

variable {name legal R} {β : Type}

/-- A value that is put into two related drafts leaves them related. -/
theorem TextField.read_alike {own : String} {read : TextReader β} {get : σ → Option β}
    {put : σ → β → σ} (put_alike : ∀ s s' x, R s s' → R (put s x) (put s' x)) (s s' : σ)
    (h : R s s') (depth : Nat) (input : List UInt8) :
    SameReading R ((of own read get put).read depth s input)
      ((of own read get put).read depth s' input) := by
  show SameReading R ((read depth input).map _) ((read depth input).map _)
  cases read depth input with
  | error f => exact .failed f
  | ok r => exact .read (put_alike s s' r.1 h) r.2

/-- A field of another name. -/
theorem TextField.keeps_of {own : String} {read : TextReader β} {get : σ → Option β}
    {put : σ → β → σ} (other : own ≠ name) (takes : ∀ depth, Takes (read depth))
    (held : ∀ s s', R s s' → (get s).isSome = (get s').isSome)
    (put_alike : ∀ s s' x, R s s' → R (put s x) (put s' x)) :
    (of own read get put).Keeps name legal R where
  takes := of_takes takes
  held := held
  read := read_alike put_alike
  swap same := absurd same other

/-- The field of the name. -/
theorem TextField.keeps_text {get : σ → Option String} {put : σ → String → σ}
    (held : ∀ s s', R s s' → (get s).isSome = (get s').isSome)
    (put_alike : ∀ s s' x, R s s' → R (put s x) (put s' x))
    (put_legal : ∀ s t t', legal t → legal t' → R (put s t) (put s t')) :
    (of name readString get put).Keeps name legal R where
  takes := of_takes readString_takes
  held := held
  read := read_alike put_alike
  swap _ s t t' ok ok' := by
    have spelled (bytes : List UInt8) (t : String) (h : Spells bytes t) (depth : Nat)
        (rest : List UInt8) :
        (of name readString get put).read depth s (bytes ++ rest) = .ok (put s t, rest) := by
      show (readString depth (bytes ++ rest)).map _ = _
      rw [h depth rest]
      rfl
    exact ⟨_, _, put_legal s t t' ok ok', fun bytes h => spelled bytes t h,
      fun bytes h => spelled bytes t' h⟩

theorem TextField.Keeps.orEnd {f : TextField σ} (h : f.Keeps name legal R) :
    f.orEnd.Keeps name legal R :=
  ⟨h.takes, h.held, h.read, h.swap⟩

theorem TextRecord.Keeps.takes {r : TextRecord σ α} {S : α → α → Prop}
    (h : r.Keeps name legal R S) : r.FieldsTake :=
  fun f member => (h.fields f member).takes

end Keeping

namespace TextRecord.Keeps

variable {r : TextRecord σ α} {name : String} {legal : String → Prop} {R : σ → σ → Prop}
  {S : α → α → Prop}

/-- The fields of one text, read into related drafts. -/
theorem readFields (keeps : r.Keeps name legal R S) (depth fuel : Nat) (first : Bool) {s s' : σ}
    (h : R s s') (input : List UInt8) :
    SameReading R (r.readFields depth fuel first s input)
      (r.readFields depth fuel first s' input) := by
  induction fuel generalizing first s s' input with
  | zero => exact .failed _
  | succ fuel ih =>
    unfold TextRecord.readFields
    refine SameReading.after _ fun next => ?_
    obtain ⟨_ | _, start⟩ := next
    · exact .read h start
    · refine SameReading.after _ fun named => ?_
      dsimp only
      cases found : r.fields.find? (·.name == named.1) with
      | none =>
        refine SameReading.after _ fun left => ?_
        exact SameReading.after _ fun left => ih false h left
      | some f =>
        have member := List.mem_of_find?_eq_some found
        dsimp only
        rw [(keeps.fields f member).held s s' h]
        split
        · exact .failed _
        · refine SameReading.after _ fun left => ?_
          exact SameReading.bind ((keeps.fields f member).read s s' h depth left)
            fun x x' rest related => ih false related rest

theorem close (keeps : r.Keeps name legal R S) {s s' : σ} (h : R s s') (rest : List UInt8) :
    SameReading S (r.close s rest) (r.close s' rest) := by
  unfold TextRecord.close
  rcases keeps.finish s s' h with ⟨m, finish, finish'⟩ | ⟨x, x', related, finish, finish'⟩
  · rw [finish, finish']
    exact .failed _
  · rw [finish, finish']
    exact .read related _

/-- **From one text or the other on**, the rest of the object comes to the same. -/
theorem readOn (keeps : r.Keeps name legal R S) {f : TextField σ} (member : f ∈ r.fields)
    (named : f.name = name) (depth : Nat) (s : σ) {n n' : Nat} {bytes bytes' : List UInt8}
    {t t' : String} (spelled : Spells bytes t) (spelled' : Spells bytes' t') (ok : legal t)
    (ok' : legal t') {after : List UInt8} (hn : after.length < n) (hn' : after.length < n') :
    SameReading S (r.readOn depth n f s (bytes ++ after))
      (r.readOn depth n' f s (bytes' ++ after)) := by
  obtain ⟨q, q', related, read, read'⟩ := (keeps.fields f member).swap named s t t' ok ok'
  unfold TextRecord.readOn
  rw [read bytes spelled, read' bytes' spelled']
  show SameReading S (r.readFields depth n false q after >>= _)
    (r.readFields depth n' false q' after >>= _)
  -- the two loops have different fuel, but neither runs out of it
  rw [r.readFields_fuel keeps.takes depth false q hn hn']
  exact SameReading.bind (keeps.readFields depth n' false related after)
    fun x x' rest h => keeps.close h rest

end TextRecord.Keeps

/-! ## §4. Whole bodies. -/

/-- A reading of a whole text by what is read at its head. -/
theorem whole_sameFault {S : α → α → Prop} {read : Parse α} {text text' : List UInt8}
    (h : SameReading S (read text) (read text')) :
    SameFault S (whole read text) (whole read text') := by
  unfold whole
  generalize read text = p at h
  generalize read text' = p' at h
  cases h with
  | failed f => exact .failed f.fault _ _
  | read related rest =>
    dsimp only
    cases finished rest with
    | error f => exact .failed f.fault _ _
    | ok _ => exact .read related

namespace TextRecord

variable {r : TextRecord σ α} {name : String} {legal : String → Prop} {R : σ → σ → Prop}
  {S : α → α → Prop} {body body' : List UInt8}

/-- **Bodies that differ in the text of one field** come to related records or to the same fault. -/
theorem parse_swap (keeps : r.Keeps name legal R S) (h : r.Swap name legal body body') :
    SameFault S (r.parse body) (r.parse body') := by
  obtain ⟨place, spelled, spelled', ok, ok', after⟩ := h
  cases place with
  | value f s member named arrives =>
    rename_i before bytes bytes' t t'
    obtain ⟨n, hn, arrived⟩ := arrives (bytes ++ after)
    obtain ⟨n', hn', arrived'⟩ := arrives (bytes' ++ after)
    rw [List.length_append] at hn hn'
    refine whole_sameFault ?_
    rw [List.append_assoc, List.append_assoc, arrived, arrived']
    exact keeps.readOn member named _ s spelled spelled' ok ok' (by omega) (by omega)
  | nothing fault fails =>
    rename_i before bytes bytes' t t'
    obtain ⟨left, failed⟩ := fails (bytes ++ after)
    obtain ⟨left', failed'⟩ := fails (bytes' ++ after)
    unfold parse whole
    rw [List.append_assoc, List.append_assoc, failed, failed']
    exact .failed fault _ _

/-- A body comes to what it comes to. -/
theorem parse_sameFault (r : TextRecord σ α) (refl : ∀ x, S x x) (body : List UInt8) :
    SameFault S (r.parse body) (r.parse body) :=
  whole_sameFault (SameReading.of_eq refl _)

/-- So do bodies that differ in several such texts. -/
theorem parse_swaps (keeps : r.Keeps name legal R S) (refl : ∀ x, S x x)
    (trans : ∀ x y z, S x y → S y z → S x z)
    (h : Relation.ReflTransGen (r.Swap name legal) body body') :
    SameFault S (r.parse body) (r.parse body') := by
  induction h with
  | refl => exact r.parse_sameFault refl body
  | @tail body' body'' _ swap ih =>
    have last := parse_swap keeps swap
    generalize r.parse body = p at ih
    generalize r.parse body' = p' at ih last
    generalize r.parse body'' = p'' at last
    cases ih with
    | failed fault q q' =>
      cases last with
      | failed fault q' q'' => exact .failed fault q q''
    | read h =>
      cases last with
      | read h' => exact .read (trans _ _ _ h h')

end TextRecord

end WorkloadIdentity.Json
