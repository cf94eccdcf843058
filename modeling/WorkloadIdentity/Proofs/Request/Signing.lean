/-
  WorkloadIdentity.Proofs.Request.Signing ──── **WHAT A TOKEN ADDS TO A REQUEST.**

  The headers of a token are put behind those of the caller, and only under names that the caller
  has not used.  So a signed request still is the caller's, and two signatures of one request differ
  in nothing but the token.

  Main results:
    * `bearerHeaders_toList` — the headers of a token, in order
    * `addHeaders_toList`, `addHeaders_values` — where they go
    * `addHeaders_carries`, `addHeaders_alike` — what they leave as it is
    * `addHeaders_authorization` — the value under which the token is sent
-/
import WorkloadIdentity.Credentials.Session

namespace WorkloadIdentity

open Credentials (addHeaders)

/-! ## §1. The headers of a token. -/

section Bearer

variable {token other project : String} {quota : Option String} {v w : HeaderValue} {h : Headers}

theorem bearerHeaders_error {e : AuthError} (value : bearerValue token = .error e) :
    bearerHeaders token quota = .error e := by
  unfold bearerHeaders
  rw [value]
  rfl

theorem bearerHeaders_none (value : bearerValue token = .ok v) :
    bearerHeaders token none = .ok (Headers.empty.insert authorizationName v) := by
  unfold bearerHeaders
  rw [value]
  rfl

/-- Who pays has to be a header value. -/
theorem bearerHeaders_unpaid (value : bearerValue token = .ok v)
    (payer : HeaderValue.ofString? project = none) :
    bearerHeaders token (some project) = .error badHeaderValue := by
  unfold bearerHeaders
  rw [value]
  simp only [bind, Except.bind, payer]

theorem bearerHeaders_paid (value : bearerValue token = .ok v)
    (payer : HeaderValue.ofString? project = some w) :
    bearerHeaders token (some project)
      = .ok ((Headers.empty.insert authorizationName v).insert quotaName w) := by
  unfold bearerHeaders
  rw [value]
  simp only [bind, Except.bind, payer]

/-- The headers that carry a token, in order: the token, and who pays. -/
theorem bearerHeaders_toList (made : bearerHeaders token quota = .ok h) :
    ∃ v, bearerValue token = .ok v ∧ h.toList = (authorizationName, v) ::
      ((quota.bind HeaderValue.ofString?).toList.map fun w => (quotaName, w)) := by
  cases value : bearerValue token with
  | error e =>
    rw [bearerHeaders_error value] at made
    cases made
  | ok v =>
    refine ⟨v, rfl, ?_⟩
    cases quota with
    | none =>
      rw [bearerHeaders_none value] at made
      cases made
      rfl
    | some project =>
      rw [Option.bind_some]
      cases payer : HeaderValue.ofString? project with
      | none =>
        rw [bearerHeaders_unpaid value payer] at made
        cases made
      | some w =>
        rw [bearerHeaders_paid value payer] at made
        cases made
        rfl

/-- Who pays is the same for every token. -/
theorem bearerHeaders_of_other (made : bearerHeaders token quota = .ok h)
    (value : bearerValue other = .ok v) : ∃ h', bearerHeaders other quota = .ok h' := by
  obtain ⟨first, hfirst, -⟩ := bearerHeaders_toList made
  cases quota with
  | none => exact ⟨_, bearerHeaders_none value⟩
  | some project =>
    cases payer : HeaderValue.ofString? project with
    | none =>
      rw [bearerHeaders_unpaid hfirst payer] at made
      cases made
    | some w => exact ⟨_, bearerHeaders_paid value payer⟩

theorem bearerHeaders_nodup (made : bearerHeaders token quota = .ok h) :
    (h.toList.map (·.1)).Nodup := by
  obtain ⟨v, -, shape⟩ := bearerHeaders_toList made
  rw [shape]
  cases quota.bind HeaderValue.ofString? <;> simp [authorizationName, quotaName]

end Bearer

/-! ## §2. Added to those of a request. -/

theorem Headers.contains_append (h : Headers) (name other : String) (v : HeaderValue) :
    (h.append name v).contains other = (h.contains other || name == other) := by
  simp [Headers.append, Headers.contains]

/-- A name without a header has no values. -/
theorem Headers.values_of_unset {h : Headers} {name : String} (unset : h.contains name = false) :
    h.values name = [] := by
  unfold Headers.values
  rw [List.map_eq_nil_iff, List.filter_eq_nil_iff]
  exact List.any_eq_false.mp unset

theorem Headers.insertNew_toList (h : Headers) (name : String) (v : HeaderValue) :
    (h.insertNew name v).toList = h.toList ++ [(name, v)].filter fun p => !h.contains p.1 := by
  cases known : h.contains name <;> simp [Headers.insertNew, Headers.append, known]

theorem Headers.contains_insertNew_ne {h : Headers} {name other : String} {v : HeaderValue}
    (distinct : name ≠ other) : (h.insertNew name v).contains other = h.contains other := by
  unfold Headers.insertNew
  split
  · rfl
  · rw [Headers.contains_append, beq_false_of_ne distinct, Bool.or_false]

/-- **Headers are added behind those of the caller**, and only under new names. -/
theorem addHeaders_toList (r : Request) {h : Headers} (distinct : (h.toList.map (·.1)).Nodup) :
    (addHeaders r h).headers.toList
      = r.headers.toList ++ h.toList.filter fun p => !r.headers.contains p.1 := by
  obtain ⟨pairs⟩ := h
  unfold addHeaders
  generalize r.headers = acc
  induction pairs generalizing acc with
  | nil => simp
  | cons p rest ih =>
    obtain ⟨fresh, distinct⟩ := List.nodup_cons.mp distinct
    -- what is still to come has other names, so it does not notice the pair
    have unnoticed : (rest.filter fun q => !(acc.insertNew p.1 p.2).contains q.1)
        = rest.filter fun q => !acc.contains q.1 := by
      refine List.filter_congr fun q hq => ?_
      have other : p.1 ≠ q.1 := fun same => fresh (List.mem_map.mpr ⟨q, hq, same.symm⟩)
      rw [Headers.contains_insertNew_ne other]
    rw [List.foldl_cons, ih distinct, Headers.insertNew_toList, unnoticed, List.append_assoc,
      ← List.filter_append, List.singleton_append]

/-- A name has the values that the caller has given it, or else those that are added. -/
theorem addHeaders_values (r : Request) {h : Headers} (distinct : (h.toList.map (·.1)).Nodup)
    (name : String) : (addHeaders r h).headers.values name =
      if r.headers.contains name then r.headers.values name else h.values name := by
  have parts : (addHeaders r h).headers.values name = r.headers.values name ++
      (h.toList.filter fun p => p.1 == name && !r.headers.contains p.1).map (·.2) := by
    unfold Headers.values
    rw [addHeaders_toList r distinct, List.filter_append, List.map_append, List.filter_filter]
  rw [parts]
  cases known : r.headers.contains name with
  | true =>
    have nothing : (h.toList.filter fun p => p.1 == name && !r.headers.contains p.1) = [] := by
      rw [List.filter_eq_nil_iff]
      rintro p - hp
      rw [Bool.and_eq_true, beq_iff_eq] at hp
      rw [hp.1, known] at hp
      exact absurd hp.2 Bool.false_ne_true
    rw [nothing, List.map_nil, List.append_nil, if_pos rfl]
  | false =>
    have all : (h.toList.filter fun p => p.1 == name && !r.headers.contains p.1)
        = h.toList.filter fun p => p.1 == name := by
      refine List.filter_congr fun p _ => ?_
      by_cases same : p.1 = name
      · rw [same, known, Bool.not_false, Bool.and_true]
      · rw [beq_false_of_ne same, Bool.false_and]
    rw [Headers.values_of_unset known, all, List.nil_append, if_neg Bool.false_ne_true]
    rfl

/-! ## §3. What stays as it is. -/

/-- A request asks what another asks.  The headers of the other come first, and nothing is added to
any name among them. -/
structure Request.Carries (a r : Request) : Prop where
  /-- The same method. -/
  method : a.method = r.method
  /-- The same URL. -/
  url : a.url = r.url
  /-- The same body. -/
  body : a.body = r.body
  /-- All headers. -/
  headers : r.headers.toList <+: a.headers.toList
  /-- No other values for them. -/
  kept : ∀ name, r.headers.contains name = true → a.headers.values name = r.headers.values name

/-- The same request with another value for the token. -/
def Request.reauthorized (a : Request) (v : HeaderValue) : Request :=
  { a with
    headers := ⟨a.headers.toList.map fun p => if p.1 = authorizationName then (p.1, v) else p⟩ }

theorem addHeaders_carries (r : Request) {h : Headers} (distinct : (h.toList.map (·.1)).Nodup) :
    (addHeaders r h).Carries r where
  method := rfl
  url := rfl
  body := rfl
  headers := by
    rw [addHeaders_toList r distinct]
    exact List.prefix_append _ _
  kept name known := by rw [addHeaders_values r distinct, if_pos known]

theorem addHeaders_of_toList {r : Request} {h : Headers} {pairs : List (String × HeaderValue)}
    (shape : (addHeaders r h).headers.toList = pairs) :
    addHeaders r h = { r with headers := ⟨pairs⟩ } := by
  rw [← shape]
  rfl

/-- Where nothing carries a token, there is nothing to replace. -/
theorem reauthorized_others {pairs : List (String × HeaderValue)} {v : HeaderValue}
    (others : ∀ p ∈ pairs, p.1 ≠ authorizationName) :
    pairs.map (fun p => if p.1 = authorizationName then (p.1, v) else p) = pairs := by
  have same : pairs.map (fun p => if p.1 = authorizationName then (p.1, v) else p) = pairs.map id :=
    List.map_congr_left fun p hp => if_neg (others p hp)
  rw [same, List.map_id]

/-- **Two attempts at one request differ in the token only**, and not even in that if the caller has
set its header. -/
theorem addHeaders_alike (r : Request) {token other : String} {quota : Option String}
    {h h' : Headers} (made : bearerHeaders token quota = .ok h)
    (made' : bearerHeaders other quota = .ok h') :
    ∃ v, bearerValue other = .ok v ∧ addHeaders r h' =
      if r.headers.contains authorizationName then addHeaders r h
      else (addHeaders r h).reauthorized v := by
  obtain ⟨v, -, shape⟩ := bearerHeaders_toList made
  obtain ⟨v', value, shape'⟩ := bearerHeaders_toList made'
  have first := addHeaders_toList r (bearerHeaders_nodup made)
  have second := addHeaders_toList r (bearerHeaders_nodup made')
  rw [shape, List.filter_cons] at first
  rw [shape', List.filter_cons] at second
  refine ⟨v', value, ?_⟩
  cases known : r.headers.contains authorizationName with
  | true =>
    simp only [known, Bool.not_true, Bool.false_eq_true, if_false] at first second
    rw [addHeaders_of_toList second, if_pos rfl, addHeaders_of_toList first]
  | false =>
    simp only [known, Bool.not_false, if_true] at first second
    -- the token stands behind the headers of the caller and before the one that pays
    have callers : ∀ p ∈ r.headers.toList, p.1 ≠ authorizationName := by
      intro p hp same
      have set : r.headers.contains authorizationName = true :=
        List.any_eq_true.mpr ⟨p, hp, beq_iff_eq.mpr same⟩
      rw [known] at set
      cases set
    have payer : ∀ p ∈
        ((quota.bind HeaderValue.ofString?).toList.map fun w => (quotaName, w)).filter
          fun p => !r.headers.contains p.1, p.1 ≠ authorizationName := by
      intro p hp
      obtain ⟨w, -, rfl⟩ := List.mem_map.mp (List.mem_filter.mp hp).1
      show quotaName ≠ authorizationName
      decide
    rw [addHeaders_of_toList second, if_neg Bool.false_ne_true]
    unfold Request.reauthorized
    rw [first, List.map_append, reauthorized_others callers, List.map_cons,
      reauthorized_others payer]
    rfl

/-- The value of a token among the headers that a request is sent with. -/
theorem addHeaders_authorization (r : Request) {token : String} {quota : Option String}
    {h : Headers} {v : HeaderValue} (made : bearerHeaders token quota = .ok h)
    (value : bearerValue token = .ok v) :
    (addHeaders r h).headers.values authorizationName =
      if r.headers.contains authorizationName then r.headers.values authorizationName else [v] := by
  obtain ⟨w, hw, shape⟩ := bearerHeaders_toList made
  rw [value] at hw
  cases hw
  have distinct : quotaName ≠ authorizationName := by decide
  rw [addHeaders_values r (bearerHeaders_nodup made)]
  unfold Headers.values
  rw [shape]
  cases quota.bind HeaderValue.ofString? <;> simp [distinct]

end WorkloadIdentity
