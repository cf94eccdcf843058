/-
  WorkloadIdentity.Proofs.Error.Agreement ──── **TWO WAYS FROM A RESPONSE TO AN ERROR.**

  A request of the application is judged by its response, whose body has yet to be read; every
  other request is judged by an answer that has been read.  The two ways lead to the same error
  if the body arrives whole.  If it is cut off, the first still tells of the status, and the
  second takes the response for none at all.

  Main results:
    * `AuthError.ofResponse_tellsOf` — the first way tells of the response, cut off or not
    * `Response.judge_agrees_iff`    — the second agrees with it exactly if the body is whole
-/
import WorkloadIdentity.Proofs.Credentials.Posts

namespace WorkloadIdentity

/-! ## §1. What is to be told. -/

/-- The kinds of errors by their names. -/
inductive AuthError.Family where
  /-- The subject token cannot be had. -/
  | source
  /-- A field of its text is missing. -/
  | field
  /-- A token endpoint answered with its flat error. -/
  | oauth
  /-- An API answered with its error object. -/
  | api
  /-- The exchange failed. -/
  | transport
  /-- Anything else. -/
  | other
  deriving DecidableEq

namespace AuthError

/-- The kind of an error by its name. -/
def family (e : AuthError) : Family :=
  match e.kind with
  | .sourceUnavailable _ _ => .source
  | .fieldNotFound _ _ => .field
  | .oauth _ => .oauth
  | .api _ => .api
  | .transport _ _ _ => .transport
  | .other _ _ => .other

/-- The flat error, if it is one. -/
def oauth? (e : AuthError) : Option OAuthError :=
  match e.kind with
  | .oauth details => some details
  | _ => none

/-- The error object, if it is one. -/
def api? (e : AuthError) : Option ApiError :=
  match e.kind with
  | .api details => some details
  | _ => none

/-- **Two errors tell the same.** -/
structure Agrees (e e' : AuthError) : Prop where
  /-- Of the same kind. -/
  family : e.family = e'.family
  /-- With the same flat error. -/
  oauth : e.oauth? = e'.oauth?
  /-- With the same error object. -/
  api : e.api? = e'.api?
  /-- With the same status. -/
  status : e.status? = e'.status?
  /-- With the same hope. -/
  transient : e.transient = e'.transient
  /-- With the same answer. -/
  response : e.response = e'.response

/-- **An error tells of a response**: its status, whether the request may succeed later, and what
was answered, as far as it could be read. -/
structure TellsOf (e : AuthError) (r : Response) : Prop where
  /-- The status. -/
  status : e.status? = some r.raw.status
  /-- Four statuses promise nothing about the request. -/
  transient : e.transient = true ↔ r.raw.status ∈ [408, 429, 500, 503]
  /-- The answer. -/
  response : e.response = if r.complete then some r.raw else none

theorem isRetryable_iff (s : Status) : s.isRetryable = true ↔ s ∈ [408, 429, 500, 503] := by
  simp only [Status.isRetryable, Bool.or_eq_true, beq_iff_eq, List.mem_cons, List.not_mem_nil,
    or_false]
  tauto

/-! ## §2. The first way. -/

/-- An unsuccessful answer makes one of three errors, and each has the answer with it. -/
theorem ofAnswer_cases (doing : String) (raw : RawResponse) :
    ∃ kind, ofAnswer doing raw = ⟨raw.status.isRetryable, kind, some raw⟩ ∧
      ((∃ e, kind = .oauth e) ∨ (∃ e, kind = .api e) ∨
        ∃ text, kind = .transport text (some raw.status) none) := by
  unfold ofAnswer
  cases OAuthError.parse raw.body with
  | ok e => exact ⟨_, rfl, .inl ⟨e, rfl⟩⟩
  | error _ =>
    cases ApiError.parse raw.body with
    | ok e => exact ⟨_, rfl, .inr (.inl ⟨e, rfl⟩)⟩
    | error _ => exact ⟨_, rfl, .inr (.inr ⟨_, rfl⟩)⟩

theorem ofResponse_whole {response : Response} (doing : String)
    (whole : response.complete = true) :
    ofResponse doing response = ofAnswer doing response.raw := by
  unfold ofResponse Response.read
  rw [if_pos whole]

theorem ofResponse_cutOff {response : Response} (doing : String)
    (cutOff : response.complete = false) :
    ∃ text cause, ofResponse doing response
      = new response.raw.status.isRetryable
        (.transport text (some response.raw.status) cause) := by
  unfold ofResponse Response.read
  rw [cutOff, if_neg Bool.false_ne_true]
  exact ⟨_, _, rfl⟩

/-- **The error of a response tells of it**, wherever the body breaks off. -/
theorem ofResponse_tellsOf (doing : String) (response : Response) :
    (ofResponse doing response).TellsOf response := by
  cases whole : response.complete with
  | false =>
    obtain ⟨text, cause, made⟩ := ofResponse_cutOff doing whole
    rw [made]
    exact ⟨rfl, isRetryable_iff _, by rw [whole]; rfl⟩
  | true =>
    obtain ⟨kind, made, kinds⟩ := ofAnswer_cases doing response.raw
    rw [ofResponse_whole doing whole, made]
    refine ⟨?_, isRetryable_iff _, by rw [whole]; rfl⟩
    rcases kinds with ⟨e, rfl⟩ | ⟨e, rfl⟩ | ⟨text, rfl⟩ <;> rfl

end AuthError

/-! ## §3. The second way. -/

/-- What a client that reads first makes of a response while `doing` something. -/
def Response.judge (doing : String) (response : Response) : Except AuthError RawResponse :=
  match response.read with
  | .error e => .error (.ofClient doing e)
  | .ok raw => if raw.status.isSuccess then .ok raw else .error (.ofAnswer doing raw)

theorem Response.accepted_eq_judge (errand : Errand) (response : Response) :
    response.accepted errand = response.judge errand.doing := by
  unfold accepted answer judge
  cases response.read <;> rfl

/-- A call that gets a response ends with what is made of it. -/
theorem Act.call_judges {errand : Errand} {method url : String} {u : Url} {headers : Headers}
    {body : Body} {w : World} {response : Response} (parsed : Url.parse url = .ok u)
    (sent : ((send errand ⟨method, u, headers, body⟩).run w).1 = .ok response) :
    ((call errand method url headers body).run w).1 = response.judge errand.doing := by
  rw [run_call errand method headers body parsed, sent, ← Response.accepted_eq_judge]
  rfl

section Failed

variable {response : Response}

theorem Response.judge_whole (doing : String) (failed : response.raw.status.isSuccess = false)
    (whole : response.complete = true) :
    response.judge doing = .error (.ofResponse doing response) := by
  rw [AuthError.ofResponse_whole doing whole]
  unfold judge read
  rw [if_pos whole]
  dsimp only
  rw [failed, if_neg Bool.false_ne_true]

theorem Response.judge_cutOff (doing : String) (cutOff : response.complete = false) :
    response.judge doing = .error (.ofClient doing (.reading response.url)) := by
  unfold judge read
  rw [cutOff, if_neg Bool.false_ne_true]

/-- **The two ways agree exactly if the body is whole.**  Then they lead to the same error.  If the
body is cut off, both tell of a failed exchange without an answer; but a call has forgotten the
status, and hopes that the request may succeed later whatever the status was. -/
theorem Response.judge_agrees_iff (failed : response.raw.status.isSuccess = false) :
    (∀ errand method url u headers body w, Url.parse url = .ok u →
      ((Act.send errand ⟨method, u, headers, body⟩).run w).1 = .ok response →
      ((Act.call errand method url headers body).run w).1 = response.judge errand.doing) ∧
    ∀ doing, (AuthError.ofResponse doing response).TellsOf response ∧
      ∃ e, response.judge doing = .error e ∧
        (e.Agrees (.ofResponse doing response) ↔ response.complete = true) ∧
        (response.complete = true → e = .ofResponse doing response) ∧
        (response.complete = false → (AuthError.ofResponse doing response).family = .transport ∧
          e.family = .transport ∧ e.response = none ∧ e.status? = none ∧ e.transient = true) := by
  refine ⟨fun errand method url u headers body w => Act.call_judges, fun doing =>
    ⟨AuthError.ofResponse_tellsOf doing response, ?_⟩⟩
  cases whole : response.complete with
  | true =>
    refine ⟨_, judge_whole doing failed whole, ?_, fun _ => rfl, nofun⟩
    exact ⟨fun _ => rfl, fun _ => ⟨rfl, rfl, rfl, rfl, rfl, rfl⟩⟩
  | false =>
    obtain ⟨text, cause, made⟩ := AuthError.ofResponse_cutOff doing whole
    refine ⟨_, judge_cutOff doing whole, ?_, nofun, fun _ => ?_⟩
    · refine ⟨fun agrees => ?_, nofun⟩
      -- the one knows the status, and the other knows none
      have known := (AuthError.ofResponse_tellsOf doing response).status
      rw [← agrees.status] at known
      cases known
    · rw [made]
      exact ⟨rfl, rfl, rfl, rfl, rfl⟩

end Failed

/-! ## §4. A body that is cut off. -/

namespace CutOff

/-- The address of a token endpoint. -/
def address : Url where
  scheme := "http".toList
  authority := some ⟨[], [], .name "sts".toList, none⟩
  path := .segments ["token".toList]
  query := none
  fragment := none

/-- Nothing was found there, and the flat error that says so may be cut off. -/
def notFound (complete : Bool) : Response where
  raw := ⟨404, .empty, Utf8.encode "\x7b\"error\":\"invalid_target\"\x7d"⟩
  url := address
  complete := complete

end CutOff

open CutOff in
/-- A flat error that arrives whole is the same on both ways. -/
theorem judge_agrees_on_flat_error :
    (notFound true).raw.status.isSuccess = false ∧
    ∃ e, (notFound true).judge Errand.exchange.doing = .error e ∧
      e.Agrees (.ofResponse Errand.exchange.doing (notFound true)) ∧ e.family = .oauth := by
  have failed : (notFound true).raw.status.isSuccess = false := rfl
  obtain ⟨-, e, judged, agrees, same, -⟩ :=
    (Response.judge_agrees_iff failed).2 Errand.exchange.doing
  refine ⟨failed, e, judged, agrees.mpr rfl, ?_⟩
  rw [same rfl]
  rfl

open CutOff in
/-- Cut off, it is an error of status 404 without hope on one way, and one without status and with
hope on the other. -/
theorem judge_disagrees_on_cut_off :
    ∃ e, (notFound false).judge Errand.exchange.doing = .error e ∧
      ¬ e.Agrees (.ofResponse Errand.exchange.doing (notFound false)) ∧
      (AuthError.ofResponse Errand.exchange.doing (notFound false)).status? = some 404 ∧
      e.status? = none ∧
      (AuthError.ofResponse Errand.exchange.doing (notFound false)).transient = false ∧
      e.transient = true := by
  refine ⟨_, rfl, ?_, rfl, rfl, rfl, rfl⟩
  intro agrees
  cases agrees.status

end WorkloadIdentity
