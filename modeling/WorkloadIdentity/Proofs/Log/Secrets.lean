/-
  WorkloadIdentity.Proofs.Log.Secrets ──── **VALUES THAT DIFFER IN SECRETS.**

  Two runs are compared that are given the same but for secrets: the contents of a subject-token
  source, and the tokens in answers.  Here is what it means for two such values to differ in a
  secret only, and how what is made of them differs.  An error may tell of a secret in two cases:
  a document without the field of its token is shown whole, and a fault behind a token is placed by
  the length of the token.

  Main results:
    * `SourceFormat.extract_alike` — two contents both have a token or the same error, but for the
      document that an error shows
    * `TokenAnswer.decode_alike`, `ServiceToken.decode_alike` — two answers both have a token or the
      same error, but for the place of a fault
-/
import WorkloadIdentity.Credentials.Session
import WorkloadIdentity.Proofs.Http.Legality
import WorkloadIdentity.Proofs.Json.Swap

namespace WorkloadIdentity

/-! ## §1. Outcomes. -/

/-- Two results: the same fault, or two that are related. -/
inductive Parallel {ε α : Type} (R : α → α → Prop) : Except ε α → Except ε α → Prop where
  /-- The same fault. -/
  | failed (e : ε) : Parallel R (.error e) (.error e)
  /-- Related results. -/
  | ok {a a' : α} (h : R a a') : Parallel R (.ok a) (.ok a')

namespace Parallel

variable {ε α β : Type} {R : α → α → Prop} {Q : β → β → Prop}

theorem of_eq (refl : ∀ a, R a a) (x : Except ε α) : Parallel R x x := by
  cases x with
  | error e => exact .failed e
  | ok a => exact .ok (refl a)

theorem bind {x x' : Except ε α} {f f' : α → Except ε β} (h : Parallel R x x')
    (next : ∀ a a', R a a' → Parallel Q (f a) (f' a')) : Parallel Q (x >>= f) (x' >>= f') := by
  cases h with
  | failed e => exact .failed e
  | ok h => exact next _ _ h

/-- What comes first is the same on both sides. -/
theorem after (x : Except ε α) {f f' : α → Except ε β} (next : ∀ a, Parallel Q (f a) (f' a)) :
    Parallel Q (x >>= f) (x >>= f') := by
  cases x with
  | error e => exact .failed e
  | ok a => exact next a

end Parallel

/-- **Two documents differ in texts only**: they have the same shape and the same names, and where
they differ, both have a text that is not empty. -/
inductive Json.Alike : Json → Json → Prop where
  /-- They do not differ. -/
  | same (v : Json) : Alike v v
  /-- They differ in a text. -/
  | string {s s' : String} (some_text : s ≠ "") (some_text' : s' ≠ "") :
      Alike (.string s) (.string s')
  /-- They differ in items. -/
  | array {items items' : List Json} (h : List.Forall₂ Alike items items') :
      Alike (.array items) (.array items')
  /-- They differ in values of fields. -/
  | object {fields fields' : List (String × Json)} (names : fields.map (·.1) = fields'.map (·.1))
      (values : List.Forall₂ Alike (fields.map (·.2)) (fields'.map (·.2))) :
      Alike (.object fields) (.object fields')

/-- A document has a token in a field: a text that is not empty. -/
def Json.HoldsToken (v : Json) (field : String) : Prop :=
  ∃ token, token ≠ "" ∧ v.field? field = some (.string token)

/-- **Two errors that tell of secrets**, and are the same apart from that. -/
inductive AuthError.Apart : AuthError → AuthError → Prop where
  /-- Two documents that differ in texts only and lack the field of the token are shown whole. -/
  | missing {field : String} {v v' : Json} (documents : v.Alike v') (lacks : ¬ v.HoldsToken field)
      (lacks' : ¬ v'.HoldsToken field) :
      Apart (.missingField field v.render) (.missingField field v'.render)
  /-- A fault in an answer that should hold a token is placed by what stands before it. -/
  | undecoded {errand : Errand} (tokens : errand = .exchange ∨ errand = .impersonation)
      (fault : Json.Fault) (p p' : Json.Position) :
      Apart (.ofBody errand.doing ⟨fault, some p⟩) (.ofBody errand.doing ⟨fault, some p'⟩)

/-- An error that tells of a secret. -/
def AuthError.TellsOfSecret (e : AuthError) : Prop := ∃ e', e.Apart e'

/-- Two outcomes: related results, the same error, or errors that tell of secrets. -/
inductive Ended {α : Type} (R : α → α → Prop) : Except AuthError α → Except AuthError α → Prop where
  /-- Related results. -/
  | ok {a a' : α} (h : R a a') : Ended R (.ok a) (.ok a')
  /-- The same error. -/
  | same (e : AuthError) : Ended R (.error e) (.error e)
  /-- Errors that tell of secrets. -/
  | apart {e e' : AuthError} (h : e.Apart e') : Ended R (.error e) (.error e')

namespace Ended

variable {α β : Type} {R : α → α → Prop} {Q : β → β → Prop}

theorem of_eq (refl : ∀ a, R a a) (x : Except AuthError α) : Ended R x x := by
  cases x with
  | error e => exact .same e
  | ok a => exact .ok (refl a)

theorem bind {x x' : Except AuthError α} {f f' : α → Except AuthError β} (h : Ended R x x')
    (next : ∀ a a', R a a' → Ended Q (f a) (f' a')) : Ended Q (x.bind f) (x'.bind f') := by
  cases h with
  | ok h => exact next _ _ h
  | same e => exact .same e
  | apart h => exact .apart h

end Ended

/-! ## §2. Tokens. -/

/-- Whether a text can be a header value. -/
def isHeaderText (t : String) : Prop := (HeaderValue.ofString? t).isSome = true

/-- Two tokens: the same, or two that can both be header values. -/
def TokenAlike (t t' : String) : Prop := t = t' ∨ isHeaderText t ∧ isHeaderText t'

theorem TokenAlike.refl (t : String) : TokenAlike t t := .inl rfl

theorem TokenAlike.trans {t t' t'' : String} (h : TokenAlike t t') (h' : TokenAlike t' t'') :
    TokenAlike t t'' := by
  rcases h with rfl | ⟨ok, ok'⟩
  · exact h'
  · rcases h' with rfl | ⟨_, ok''⟩
    · exact .inr ⟨ok, ok'⟩
    · exact .inr ⟨ok, ok''⟩

/-- Two access tokens with the same expiry; the answers that brought them are not compared. -/
structure AccessToken.Alike (t t' : AccessToken) : Prop where
  /-- The tokens. -/
  token : TokenAlike t.token t'.token
  /-- The instant at which they expire. -/
  expiry : t.expiry = t'.expiry

theorem AccessToken.Alike.refl (t : AccessToken) : t.Alike t := ⟨.refl _, rfl⟩

/-- A token that can be a header value can be carried. -/
theorem exists_bearerValue {t : String} (h : isHeaderText t) : ∃ v, bearerValue t = .ok v := by
  obtain ⟨v, made⟩ := Option.isSome_iff_exists.mp h
  exact ⟨_, bearerValue_of_legal (HeaderValue.ofString?_eq_some_iff.mp made).1⟩

/-- Two tokens are both carried or both refused. -/
theorem bearerHeaders_alike {t t' : String} (h : TokenAlike t t') (quota : Option String) :
    Ended (fun _ _ => True) (bearerHeaders t quota) (bearerHeaders t' quota) := by
  rcases h with rfl | ⟨legal, legal'⟩
  · exact Ended.of_eq (fun _ => trivial) _
  · obtain ⟨v, hv⟩ := exists_bearerValue legal
    obtain ⟨v', hv'⟩ := exists_bearerValue legal'
    unfold bearerHeaders
    rw [hv, hv']
    -- what is left is the project that pays, and it is the same
    dsimp only [Bind.bind, Except.bind]
    cases quota with
    | none => exact .ok trivial
    | some project =>
      dsimp only
      cases HeaderValue.ofString? project with
      | none => exact .same _
      | some paid => exact .ok trivial

/-! ## §3. Contents of a source. -/

/-- **Two contents that differ in secrets only**: two texts that are not empty, or two documents. -/
inductive SourceFormat.Alike (format : SourceFormat) : String → String → Prop where
  /-- They do not differ. -/
  | same (content : String) : Alike format content content
  /-- The whole text is the secret. -/
  | text {content content' : String} (plain : format = .text) (some_text : content ≠ "")
      (some_text' : content' ≠ "") : Alike format content content'
  /-- The texts in a document are. -/
  | json {field content content' : String} {v v' : Json} (structured : format = .json field)
      (parsed : Json.parse (Utf8.encode content) = .ok v)
      (parsed' : Json.parse (Utf8.encode content') = .ok v') (h : v.Alike v') :
      Alike format content content'

/-- What two documents have in the field of a name: neither has it, or both have. -/
theorem Json.field?_alike {fields fields' : List (String × Json)}
    (names : fields.map (·.1) = fields'.map (·.1))
    (values : List.Forall₂ Json.Alike (fields.map (·.2)) (fields'.map (·.2))) (name : String) :
    Option.Rel Json.Alike ((Json.object fields).field? name)
      ((Json.object fields').field? name) := by
  unfold Json.field?
  dsimp only
  induction fields generalizing fields' with
  | nil =>
    cases fields' with
    | nil => exact .none
    | cons f' rest' => cases names
  | cons f rest ih =>
    cases fields' with
    | nil => cases names
    | cons f' rest' =>
      obtain ⟨first, others⟩ : f.1 = f'.1 ∧ rest.map (·.1) = rest'.map (·.1) := List.cons.inj names
      rw [List.map_cons, List.map_cons] at values
      cases values with
      | cons value values =>
        rw [List.find?_cons, List.find?_cons, ← first]
        cases f.1 == name with
        | true => exact .some value
        | false => exact ih others values

/-- The token in the field of a document, or the error that there is none. -/
def SourceFormat.tokenOf (name : String) (v : Json) : Except AuthError String :=
  match v.field? name with
  | some (.string token) => if token = "" then .error (.missingField name v.render) else .ok token
  | _ => .error (.missingField name v.render)

theorem SourceFormat.tokenOf_holds {name : String} {v : Json} (holds : v.HoldsToken name) :
    ∃ token, tokenOf name v = .ok token := by
  obtain ⟨token, some_text, found⟩ := holds
  refine ⟨token, ?_⟩
  unfold tokenOf
  rw [found]
  exact if_neg some_text

theorem SourceFormat.tokenOf_lacks {name : String} {v : Json} (lacks : ¬ v.HoldsToken name) :
    tokenOf name v = .error (.missingField name v.render) := by
  unfold tokenOf
  split
  · rename_i token found
    by_cases empty : token = ""
    · exact if_pos empty
    · exact absurd ⟨token, empty, found⟩ lacks
  · rfl

/-- Of two documents that differ in texts only, both have a token in a field or neither has. -/
theorem Json.holdsToken_iff {v v' : Json} (h : v.Alike v') (name : String) :
    v.HoldsToken name ↔ v'.HoldsToken name := by
  unfold HoldsToken
  cases h with
  | same => exact Iff.rfl
  | string | array => exact Iff.rfl
  | @object fields fields' names values =>
    have field := Json.field?_alike names values name
    generalize (Json.object fields).field? name = w at field ⊢
    generalize (Json.object fields').field? name = w' at field ⊢
    cases field with
    | none => exact Iff.rfl
    | some h =>
      cases h with
      | same => exact Iff.rfl
      | string some_text some_text' =>
        exact ⟨fun _ => ⟨_, some_text', rfl⟩, fun _ => ⟨_, some_text, rfl⟩⟩
      | array | object => simp

theorem SourceFormat.tokenOf_alike (name : String) {v v' : Json} (h : v.Alike v') :
    Ended (fun _ _ => True) (tokenOf name v) (tokenOf name v') := by
  have both := Json.holdsToken_iff h name
  by_cases holds : v.HoldsToken name
  · obtain ⟨token, found⟩ := tokenOf_holds holds
    obtain ⟨token', found'⟩ := tokenOf_holds (both.mp holds)
    rw [found, found']
    exact .ok trivial
  · have lacks' := mt both.mpr holds
    rw [tokenOf_lacks holds, tokenOf_lacks lacks']
    exact .apart (.missing h holds lacks')

/-- **Two contents both have a token, or neither has**; the errors differ at most in the document
that they show. -/
theorem SourceFormat.extract_alike {format : SourceFormat} {content content' : String}
    (h : format.Alike content content') (origin : String) :
    Ended (fun _ _ => True) (format.extract content origin) (format.extract content' origin) := by
  cases h with
  | same => exact Ended.of_eq (fun _ => trivial) _
  | text plain some_text some_text' =>
    subst plain
    unfold extract
    dsimp only
    rw [if_neg some_text, if_neg some_text']
    exact .ok trivial
  | json structured parsed parsed' h =>
    subst structured
    unfold extract
    dsimp only
    rw [parsed, parsed']
    exact tokenOf_alike _ h

/-! ## §4. Answers with tokens. -/

theorem isSome_of_rel {t t' : Option String} (h : Option.Rel TokenAlike t t') :
    t.isSome = t'.isSome := by
  cases h <;> rfl

namespace TokenAnswer

/-- Two drafts of an answer that differ in the token at most. -/
def Draft.Alike (d d' : Draft) : Prop :=
  ∃ t, d' = { d with accessToken := t } ∧ Option.Rel TokenAlike d.accessToken t

/-- **Two answers that differ in the token at most**; what is never logged is not compared. -/
structure Alike (a a' : TokenAnswer) : Prop where
  /-- The tokens. -/
  token : TokenAlike a.accessToken a'.accessToken
  /-- For how many seconds they are valid. -/
  expiresIn : a.expiresIn = a'.expiresIn

theorem Alike.refl (a : TokenAnswer) : a.Alike a := ⟨.refl _, rfl⟩

theorem Alike.trans (a a' a'' : TokenAnswer) (h : a.Alike a') (h' : a'.Alike a'') : a.Alike a'' :=
  ⟨h.token.trans h'.token, h.expiresIn.trans h'.expiresIn⟩

/-- A field that has nothing to do with the token. -/
theorem Draft.keeps_other {β : Type} {own : String} {read : Json.TextReader β}
    {get : Draft → Option β} {put : Draft → β → Draft} (other : own ≠ "access_token")
    (takes : ∀ depth, Json.Takes (read depth))
    (get_other : ∀ d t, get { d with accessToken := t } = get d)
    (put_other : ∀ d t x, put { d with accessToken := t } x = { put d x with accessToken := t })
    (put_token : ∀ d x, (put d x).accessToken = d.accessToken) :
    (Json.TextField.of own read get put).Keeps "access_token" isHeaderText Draft.Alike := by
  refine Json.TextField.keeps_of other takes ?_ ?_
  · rintro d _ ⟨t, rfl, -⟩
    exact congrArg Option.isSome (get_other d t).symm
  · rintro d _ x ⟨t, rfl, h⟩
    refine ⟨t, put_other d t x, ?_⟩
    rw [put_token]
    exact h

theorem keeps : record.Keeps "access_token" isHeaderText Draft.Alike Alike where
  fields := by
    intro f hf
    simp only [record, List.mem_cons, List.not_mem_nil, or_false] at hf
    rcases hf with rfl | rfl | rfl | rfl | rfl | rfl
    · refine Json.TextField.keeps_text ?_ ?_ ?_
      · rintro s _ ⟨t, rfl, h⟩
        exact isSome_of_rel h
      · rintro s _ x ⟨t, rfl, -⟩
        exact ⟨some x, rfl, .some (.refl x)⟩
      · exact fun s t t' ok ok' => ⟨some t', rfl, .some (.inr ⟨ok, ok'⟩)⟩
    · refine Json.TextField.Keeps.orEnd ?_
      exact Draft.keeps_other (by decide) Json.readString_takes (fun _ _ => rfl)
        (fun _ _ _ => rfl) (fun _ _ => rfl)
    · refine Json.TextField.Keeps.orEnd ?_
      exact Draft.keeps_other (by decide) Json.readString_takes (fun _ _ => rfl)
        (fun _ _ _ => rfl) (fun _ _ => rfl)
    · exact Draft.keeps_other (by decide)
        (fun depth => Json.readOptional_takes (Json.readNatural_takes _ _ depth)) (fun _ _ => rfl)
        (fun _ _ _ => rfl) (fun _ _ => rfl)
    · exact Draft.keeps_other (by decide)
        (fun depth => Json.readOptional_takes (Json.readString_takes depth)) (fun _ _ => rfl)
        (fun _ _ _ => rfl) (fun _ _ => rfl)
    · exact Draft.keeps_other (by decide)
        (fun depth => Json.readOptional_takes (Json.readString_takes depth)) (fun _ _ => rfl)
        (fun _ _ _ => rfl) (fun _ _ => rfl)
  finish := by
    rintro ⟨u, _, _, _, _, _⟩ _ ⟨t, rfl, h⟩
    unfold record
    dsimp only at h ⊢
    cases h with
    | none => exact .inl ⟨_, rfl, rfl⟩
    | some h =>
      refine .inr ⟨_, _, ?_, rfl, rfl⟩
      exact ⟨h, rfl⟩

end TokenAnswer

namespace ServiceToken

/-- Two drafts of an answer for a service account that differ in the token at most. -/
def Draft.Alike (d d' : Draft) : Prop :=
  ∃ t, d' = { d with accessToken := t } ∧ Option.Rel TokenAlike d.accessToken t

/-- **Two answers for a service account that differ in the token at most.** -/
structure Alike (a a' : ServiceToken) : Prop where
  /-- The tokens. -/
  token : TokenAlike a.accessToken a'.accessToken
  /-- When they expire. -/
  expireTime : a.expireTime = a'.expireTime

theorem Alike.refl (a : ServiceToken) : a.Alike a := ⟨.refl _, rfl⟩

theorem Alike.trans (a a' a'' : ServiceToken) (h : a.Alike a') (h' : a'.Alike a'') : a.Alike a'' :=
  ⟨h.token.trans h'.token, h.expireTime.trans h'.expireTime⟩

theorem keeps : record.Keeps "accessToken" isHeaderText Draft.Alike Alike where
  fields := by
    intro f hf
    simp only [record, List.mem_cons, List.not_mem_nil, or_false] at hf
    rcases hf with rfl | rfl
    · refine Json.TextField.keeps_text ?_ ?_ ?_
      · rintro s _ ⟨t, rfl, h⟩
        exact isSome_of_rel h
      · rintro s _ x ⟨t, rfl, -⟩
        exact ⟨some x, rfl, .some (.refl x)⟩
      · exact fun s t t' ok ok' => ⟨some t', rfl, .some (.inr ⟨ok, ok'⟩)⟩
    · refine Json.TextField.keeps_of (by decide) Json.readString_takes ?_ ?_
      · rintro s _ ⟨t, rfl, -⟩
        rfl
      · rintro s _ x ⟨t, rfl, h⟩
        exact ⟨t, rfl, h⟩
  finish := by
    rintro ⟨u, time⟩ _ ⟨t, rfl, h⟩
    unfold record
    dsimp only at h ⊢
    cases h with
    | none => exact .inl ⟨_, rfl, rfl⟩
    | some h =>
      cases time with
      | none => exact .inl ⟨_, rfl, rfl⟩
      | some time =>
        refine .inr ⟨_, _, ?_, rfl, rfl⟩
        exact ⟨h, rfl⟩

/-- Both tokens of two such answers expire at the same instant, or neither has one. -/
theorem token_alike {a a' : ServiceToken} (h : a.Alike a') (raw raw' : RawResponse) :
    Ended AccessToken.Alike (Impersonation.token a raw) (Impersonation.token a' raw') := by
  unfold Impersonation.token
  rw [← h.expireTime]
  cases Timestamp.parse a.expireTime with
  | error e => exact .same _
  | ok time =>
    refine .ok ?_
    exact ⟨h.token, rfl⟩

end ServiceToken

/-- **Two bodies of an answer differ in secrets only**, by what was asked. -/
def BodyAlike (format : SourceFormat) : Errand → List UInt8 → List UInt8 → Prop
  | .subjectToken => fun body body' =>
    format.Alike (Utf8.decodeLossy body) (Utf8.decodeLossy body')
  | .exchange => Relation.ReflTransGen (TokenAnswer.record.Swap "access_token" isHeaderText)
  | .impersonation => Relation.ReflTransGen (ServiceToken.record.Swap "accessToken" isHeaderText)
  | .projectId | .target => Eq

/-- **Two answers differ in secrets only**: they are the same, or both tell of success and differ
in their bodies. -/
inductive RawResponse.Alike (format : SourceFormat) (errand : Errand) :
    RawResponse → RawResponse → Prop where
  /-- They do not differ. -/
  | same (raw : RawResponse) : Alike format errand raw raw
  /-- They differ in their bodies. -/
  | body {status : Status} (headers : Headers) {body body' : List UInt8}
      (success : status.isSuccess = true) (h : BodyAlike format errand body body') :
      Alike format errand ⟨status, headers, body⟩ ⟨status, headers, body'⟩

/-- What is decoded of two bodies with tokens. -/
theorem decode_alike {σ α : Type} {S : α → α → Prop} {record : Json.TextRecord σ α}
    {errand : Errand} (tokens : errand = .exchange ∨ errand = .impersonation)
    {raw raw' : RawResponse}
    (h : Json.SameFault S (record.parse raw.body) (record.parse raw'.body)) :
    Ended S (Act.decode record errand.doing raw) (Act.decode record errand.doing raw') := by
  unfold Act.decode
  generalize record.parse raw.body = p at h
  generalize record.parse raw'.body = p' at h
  cases h with
  | failed fault q q' => exact .apart (.undecoded tokens fault q q')
  | read related => exact .ok related

/-- **Two answers to a trade** both hold a token, or the same is wrong with them. -/
theorem TokenAnswer.decode_alike {format : SourceFormat} {raw raw' : RawResponse}
    (h : raw.Alike format .exchange raw') :
    Ended TokenAnswer.Alike (TokenAnswer.decode Errand.exchange.doing raw)
      (TokenAnswer.decode Errand.exchange.doing raw') := by
  refine WorkloadIdentity.decode_alike (.inl rfl) ?_
  cases h with
  | same => exact record.parse_sameFault Alike.refl _
  | body headers success swaps => exact record.parse_swaps keeps Alike.refl Alike.trans swaps

/-- **So do two answers for a service account.** -/
theorem ServiceToken.decode_alike {format : SourceFormat} {raw raw' : RawResponse}
    (h : raw.Alike format .impersonation raw') :
    Ended ServiceToken.Alike (Act.decode record Errand.impersonation.doing raw)
      (Act.decode record Errand.impersonation.doing raw') := by
  refine WorkloadIdentity.decode_alike (.inr rfl) ?_
  cases h with
  | same => exact record.parse_sameFault Alike.refl _
  | body headers success swaps => exact record.parse_swaps keeps Alike.refl Alike.trans swaps

end WorkloadIdentity
