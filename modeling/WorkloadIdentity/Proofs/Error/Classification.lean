/-
  WorkloadIdentity.Proofs.Error.Classification ──── **WHAT AN UNSUCCESSFUL ANSWER IS TAKEN FOR.**

  Two shapes of body are tried one after the other, and what has neither shape is a failed
  exchange.  Both shapes have a field of the same name, which is a text in the one and a record in
  the other.  So no body has both shapes, and it makes no difference which of them is tried first.
  What goes with the error is taken from the answer and never from what the body says of it.

  Main results:
    * `OAuthError.not_both`       — no body is a flat error and an error object
    * `AuthError.ofAnswer_classifies` — every unsuccessful answer is classified by its body alone
-/
import WorkloadIdentity.Proofs.Error.Agreement
import WorkloadIdentity.Proofs.Json.Passing

namespace WorkloadIdentity

/-! ## §1. The two shapes. -/

namespace Json

/-- A field that reads its value and puts it into the draft has read the value. -/
theorem TextField.of_cases {σ α : Type} {name : String} {read : TextReader α} {get : σ → Option α}
    {put : σ → α → σ} {depth : Nat} {s s' : σ} {input left : List UInt8}
    (h : (TextField.of name read get put).read depth s input = .ok (s', left)) :
    ∃ x, read depth input = .ok (x, left) ∧ s' = put s x := by
  obtain ⟨⟨x, rest⟩, done, made⟩ := exists_of_map_ok h
  cases made
  exact ⟨x, done, rfl⟩

end Json

open Json in
/-- **The two shapes clash**: the code of a flat error is a text, and the error of an API under the
same name is a record. -/
theorem OAuthError.clash :
    ∃ f others f', OAuthError.record.Clash f others ApiError.envelope f'
      fun d => d.error = none := by
  refine ⟨_, _, _, ⟨rfl, rfl, rfl, rfl, ?_, ?_, rfl, ?_⟩⟩
  · intro depth s s' input t t' asText asRecord
    obtain ⟨text, read, -⟩ := TextField.of_cases asText
    obtain ⟨e, read', -⟩ := TextField.of_cases asRecord
    exact TextRecord.not_read_of_readString read read'
  · intro g member depth s input s' left read
    -- an explanation and a page: both are texts, or null
    rcases List.mem_pair.mp member with rfl | rfl
    · obtain ⟨x, taken, rfl⟩ := TextField.of_cases read
      exact ⟨skip_of_readOptional taken, id⟩
    · obtain ⟨x, taken, rfl⟩ := TextField.of_cases read
      exact ⟨skip_of_readOptional taken, id⟩
  · intro d e missing done
    simp only [OAuthError.record, missing] at done
    cases done

/-- **No body has both shapes.** -/
theorem OAuthError.not_both {body : List UInt8} {e : OAuthError} {e' : ApiError}
    (flat : OAuthError.parse body = .ok e) : ApiError.parse body ≠ .ok e' := by
  intro object
  obtain ⟨f, others, f', clash⟩ := OAuthError.clash
  obtain ⟨rest, read, -⟩ := Json.whole_ok_iff.mp flat
  obtain ⟨rest', read', -⟩ := Json.whole_ok_iff.mp object
  exact clash.not_both read read'

/-! ## §2. What goes with an answer. -/

namespace AuthError

/-- An unsuccessful answer, by its body, with the two shapes tried in the other order. -/
def ofAnswerObjectFirst (doing : String) (r : RawResponse) : AuthError :=
  match ApiError.parse r.body with
  | .ok e => ⟨r.status.isRetryable, .api e, some r⟩
  | .error _ =>
    match OAuthError.parse r.body with
    | .ok e => ⟨r.status.isRetryable, .oauth e, some r⟩
    | .error _ => ofUnknownBody doing r

/-- **An error classifies an answer**: its kind, and the payload that goes with the kind, are told
by the body alone, and everything else by the answer around it. -/
structure Classifies (e : AuthError) (raw : RawResponse) : Prop where
  /-- There are three kinds. -/
  kind : e.family = .oauth ∨ e.family = .api ∨ e.family = .transport
  /-- The flat error is there exactly if the body is one. -/
  oauth : e.family = .oauth ↔ ∃ x, OAuthError.parse raw.body = .ok x
  /-- The error object is there exactly if the body is one. -/
  api : e.family = .api ↔ ∃ x, ApiError.parse raw.body = .ok x
  /-- A failed exchange is what is neither. -/
  transport : e.family = .transport ↔
    (¬ ∃ x, OAuthError.parse raw.body = .ok x) ∧ ¬ ∃ x, ApiError.parse raw.body = .ok x
  /-- The payload is what the body decodes as. -/
  payload : e.oauth? = (OAuthError.parse raw.body).toOption ∧
    e.api? = (ApiError.parse raw.body).toOption
  /-- The status is that of the answer, whatever the payload says. -/
  status : e.status? = some raw.status
  /-- Its text is decimal. -/
  digits : e.statusCode? = some (toString raw.status)
  /-- Four statuses promise nothing about the request. -/
  transient : e.transient = true ↔ raw.status ∈ [408, 429, 500, 503]
  /-- The answer goes with it unchanged. -/
  response : e.response = some raw

/-- Once it is known what the body is, the rest is read off. -/
theorem classifies_oauth {raw : RawResponse} {e : OAuthError}
    (flat : OAuthError.parse raw.body = .ok e) :
    Classifies ⟨raw.status.isRetryable, .oauth e, some raw⟩ raw where
  kind := .inl rfl
  oauth := ⟨fun _ => ⟨e, flat⟩, fun _ => rfl⟩
  api := ⟨nofun, fun ⟨_, object⟩ => absurd object (OAuthError.not_both flat)⟩
  transport := ⟨nofun, fun neither => absurd ⟨e, flat⟩ neither.1⟩
  payload := by
    refine ⟨by rw [flat]; rfl, ?_⟩
    cases object : ApiError.parse raw.body with
    | ok x => exact absurd object (OAuthError.not_both flat)
    | error _ => rfl
  status := rfl
  digits := rfl
  transient := isRetryable_iff _
  response := rfl

theorem classifies_api {raw : RawResponse} {e : ApiError}
    (object : ApiError.parse raw.body = .ok e) :
    Classifies ⟨raw.status.isRetryable, .api e, some raw⟩ raw where
  kind := .inr (.inl rfl)
  oauth := ⟨nofun, fun ⟨_, flat⟩ => absurd object (OAuthError.not_both flat)⟩
  api := ⟨fun _ => ⟨e, object⟩, fun _ => rfl⟩
  transport := ⟨nofun, fun neither => absurd ⟨e, object⟩ neither.2⟩
  payload := by
    refine ⟨?_, by rw [object]; rfl⟩
    cases flat : OAuthError.parse raw.body with
    | ok x => exact absurd object (OAuthError.not_both flat)
    | error _ => rfl
  status := rfl
  digits := rfl
  transient := isRetryable_iff _
  response := rfl

theorem classifies_unknown (doing : String) {raw : RawResponse} {fault fault' : Json.Error}
    (notFlat : OAuthError.parse raw.body = .error fault)
    (notObject : ApiError.parse raw.body = .error fault') :
    Classifies (ofUnknownBody doing raw) raw := by
  have noFlat : ¬ ∃ x, OAuthError.parse raw.body = .ok x := fun ⟨_, flat⟩ =>
    nomatch notFlat.symm.trans flat
  have noObject : ¬ ∃ x, ApiError.parse raw.body = .ok x := fun ⟨_, object⟩ =>
    nomatch notObject.symm.trans object
  exact
    { kind := .inr (.inr rfl)
      oauth := ⟨nofun, fun flat => absurd flat noFlat⟩
      api := ⟨nofun, fun object => absurd object noObject⟩
      transport := ⟨fun _ => ⟨noFlat, noObject⟩, fun _ => rfl⟩
      payload := ⟨by rw [notFlat]; rfl, by rw [notObject]; rfl⟩
      status := rfl
      digits := rfl
      transient := isRetryable_iff _
      response := rfl }

/-! ## §3. The order of the two attempts. -/

theorem ofAnswer_eq_objectFirst (doing : String) (raw : RawResponse) :
    ofAnswer doing raw = ofAnswerObjectFirst doing raw := by
  unfold ofAnswer ofAnswerObjectFirst
  cases flat : OAuthError.parse raw.body with
  | error _ => rfl
  | ok e =>
    cases object : ApiError.parse raw.body with
    | error _ => rfl
    | ok e' => exact absurd object (OAuthError.not_both flat)

/-- **Every unsuccessful answer is classified by its body alone.**  The error is of exactly one of
three kinds; no body has both shapes, and so the two may be tried in either order; and status,
hope and answer are those of the response whatever the kind. -/
theorem ofAnswer_classifies (doing : String) (raw : RawResponse) :
    (ofAnswer doing raw).Classifies raw ∧
    (¬ ∃ e e', OAuthError.parse raw.body = .ok e ∧ ApiError.parse raw.body = .ok e') ∧
    ofAnswer doing raw = ofAnswerObjectFirst doing raw := by
  refine ⟨?_, fun ⟨_, _, flat, object⟩ => OAuthError.not_both flat object,
    ofAnswer_eq_objectFirst doing raw⟩
  unfold ofAnswer
  cases flat : OAuthError.parse raw.body with
  | ok e => exact classifies_oauth flat
  | error _ =>
    cases object : ApiError.parse raw.body with
    | ok e => exact classifies_api object
    | error _ => exact classifies_unknown doing flat object

/-- An error object that speaks of another status is an error of the status that was sent. -/
example :
    let body := Utf8.encode
      "\x7b\"error\":\x7b\"code\":503,\"message\":\"later\"\x7d,\"error_uri\":null\x7d"
    let e := ofAnswer "cannot call" ⟨403, .empty, body⟩
    e.api? = some ⟨503, "later", ""⟩ ∧ e.statusCode? = some "403" ∧ e.transient = false := by
  decide

end AuthError

end WorkloadIdentity
