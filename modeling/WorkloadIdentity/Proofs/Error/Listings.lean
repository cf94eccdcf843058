/-
  WorkloadIdentity.Proofs.Error.Listings ──── **ANSWERS THAT ARE NO OBJECTS.**

  Every answer is due as an object.  A body that begins no object is refused, but for one kind: a
  sequence that lists the values of all fields in their order is taken for the record, whether it
  is the answer of an endpoint, a flat error or the error of an API.

  Main results:
    * `TokenAnswer.lists`, `ServiceToken.lists`, `Project.lists`, `OAuthError.lists`,
      `ApiError.parse_enclosed_iff` — which bodies are taken for the five records
    * `Query.fails_of_answered` — what comes of a question to an endpoint that is answered
    * `Query.answered_refused_iff` — an answer that is no object is refused unless it is a listing
-/
import WorkloadIdentity.Proofs.Error.Classification
import WorkloadIdentity.Proofs.Error.Unanswered
import WorkloadIdentity.Proofs.Json.Sequences

namespace WorkloadIdentity

open Json (NoObject text? naturalUpTo? orNull?)

/-! ## §1. Records that are listed. -/

/-- The answer of a token endpoint, listed. -/
def TokenAnswer.ofItems? : List Json → Option TokenAnswer
  | [token, issued, use, seconds, refresh, scope] => do
    some ⟨← text? token, ← text? issued, ← text? use,
      ← orNull? (naturalUpTo? expiresInBound) seconds, ← orNull? text? refresh,
      ← orNull? text? scope, none⟩
  | _ => none

/-- The answer from a service account, listed. -/
def ServiceToken.ofItems? : List Json → Option ServiceToken
  | [token, time] => do some ⟨← text? token, ← text? time⟩
  | _ => none

/-- The answer to the question for a project, listed. -/
def Project.ofItems? : List Json → Option String
  | [projectId] => text? projectId
  | _ => none

/-- A flat error, listed. -/
def OAuthError.ofItems? : List Json → Option OAuthError
  | [error, description, uri] => do
    some ⟨← text? error, ← orNull? text? description, ← orNull? text? uri⟩
  | _ => none

open Json Json.TextField in
theorem TokenAnswer.lists : TokenAnswer.record.Lists TokenAnswer.ofItems? := by
  refine TextRecord.lists
    (.cons (filledBy_of readsAs_string) (.cons (filledBy_of readsAs_string).orEnd
      (.cons (filledBy_of readsAs_string).orEnd
        (.cons (filledBy_of (readsAs_natural expiresInBound "u64").optional)
          (.cons (filledBy_of readsAs_string.optional)
            (.cons (filledBy_of readsAs_string.optional) .nil)))))) ?_
  intro vs
  -- there are too few items, as many as fields, or too many
  rcases vs with _ | ⟨a, _ | ⟨b, _ | ⟨c, _ | ⟨d, _ | ⟨e, _ | ⟨f, _ | ⟨g, vs⟩⟩⟩⟩⟩⟩⟩
  all_goals simp [ofItems?, record, fillAll, Option.bind_assoc, Option.bind_map,
    Except.toOption]

open Json Json.TextField in
theorem ServiceToken.lists : ServiceToken.record.Lists ServiceToken.ofItems? := by
  refine TextRecord.lists
    (.cons (filledBy_of readsAs_string) (.cons (filledBy_of readsAs_string) .nil)) ?_
  intro vs
  rcases vs with _ | ⟨a, _ | ⟨b, _ | ⟨c, vs⟩⟩⟩
  all_goals simp [ofItems?, record, fillAll, Option.bind_assoc, Option.bind_map,
    Except.toOption]

open Json Json.TextField in
theorem Project.lists : Project.record.Lists Project.ofItems? := by
  refine TextRecord.lists (.cons (filledBy_of readsAs_string) .nil) ?_
  intro vs
  rcases vs with _ | ⟨a, _ | ⟨b, vs⟩⟩
  all_goals simp [ofItems?, record, fillAll, Option.bind_map, Except.toOption]

open Json Json.TextField in
theorem OAuthError.lists : OAuthError.record.Lists OAuthError.ofItems? := by
  refine TextRecord.lists
    (.cons (filledBy_of readsAs_string) (.cons (filledBy_of readsAs_string.optional)
      (.cons (filledBy_of readsAs_string.optional) .nil))) ?_
  intro vs
  rcases vs with _ | ⟨a, _ | ⟨b, _ | ⟨c, _ | ⟨d, vs⟩⟩⟩⟩
  all_goals simp [ofItems?, record, fillAll, Option.bind_assoc, Option.bind_map,
    Except.toOption]

/-- **The body is a sequence whose only item is the error of an API**: an object, or a listing of
its fields, one level deeper than the sequence. -/
def ApiError.Enclosed (body : List UInt8) (e : ApiError) : Prop :=
  ∃ depth start rest after, Json.depthBound = depth + 1 ∧
    Json.skipBlanks body = Json.byte '[' :: start ∧
    ApiError.record.read depth start = .ok (e, rest) ∧
    Json.skipBlanks rest = Json.byte ']' :: after ∧ Json.skipBlanks after = []

section Enclosing

open Json

variable {depth : Nat} {input : List UInt8}

/-- An error object that is due is read from a sequence with the error in it. -/
theorem ApiError.readItems_iff {e : ApiError} {s : Option ApiError} {mid : List UInt8} :
    ApiError.envelope.readItems depth ApiError.envelope.fields 0 true none input = .ok (s, mid) ∧
        ApiError.envelope.finish s = .ok e ↔
      s = some e ∧ ApiError.record.read depth input = .ok (e, mid) := by
  constructor
  · rintro ⟨read, done⟩
    obtain ⟨⟨follows, item⟩, next, read⟩ := exists_of_bind_ok read
    cases follows with
    | false => cases read
    | true =>
      obtain ⟨⟨t, left⟩, filled, same⟩ := exists_of_bind_ok read
      cases same
      obtain ⟨x, one, rfl⟩ := TextField.of_cases filled
      cases done
      rw [Json.eq_of_nextItem next, Json.TextRecord.read_skipBlanks] at one
      exact ⟨rfl, one⟩
  · rintro ⟨rfl, one⟩
    refine ⟨?_, rfl⟩
    have next := Json.TextRecord.nextItem_of_read one
    rw [← Json.TextRecord.read_skipBlanks] at one
    unfold TextRecord.readItems envelope
    simp only [next, bind, Except.bind, TextField.of, one, Except.map]
    rfl

/-- **A body that begins no object is taken for an error object exactly if it encloses the error of
an API.** -/
theorem ApiError.parse_enclosed_iff {body : List UInt8} {e : ApiError} (other : NoObject body) :
    ApiError.parse body = .ok e ↔ ApiError.Enclosed body e := by
  unfold ApiError.parse TextRecord.parse
  rw [Json.whole_ok_iff]
  constructor
  · rintro ⟨after, read, finished⟩
    obtain ⟨b, start, depth, found, bracket, deep⟩ := Json.TextRecord.bracket_of_read other read
    rw [deep] at read
    obtain ⟨s, mid, items, done, closed⟩ :=
      (Json.TextRecord.read_bracket_iff found bracket).mp read
    obtain ⟨rfl, one⟩ := ApiError.readItems_iff.mp ⟨items, done⟩
    cases Json.byte_of_opening.1 bracket
    exact ⟨depth, start, mid, after, deep, found, one, Json.closeList_ok_iff.mp closed, finished⟩
  · rintro ⟨depth, start, rest, after, deep, found, one, closed, finished⟩
    obtain ⟨items, done⟩ := ApiError.readItems_iff.mpr ⟨rfl, one⟩
    rw [deep]
    exact ⟨after, (Json.TextRecord.read_bracket_iff found rfl).mpr
      ⟨some e, rest, items, done, Json.closeList_ok_iff.mpr closed⟩, finished⟩

end Enclosing

/-- **What a body that begins no object is taken for**: the record, if it lists its fields, and
otherwise it is refused. -/
theorem Act.decode_cases {σ α : Type} {r : Json.TextRecord σ α} {of : List Json → Option α}
    (lists : r.Lists of) (doing : String) {raw : RawResponse} (other : NoObject raw.body) :
    (Json.Listing of raw.body ∧ ∃ x, Act.decode r doing raw = .ok x) ∨
      ¬ Json.Listing of raw.body ∧
        ∃ fault, Act.decode r doing raw = .error (.ofBody doing fault) := by
  have taken := Json.listing_iff lists other
  unfold Act.decode
  cases parsed : r.parse raw.body with
  | ok x => exact .inl ⟨taken.mpr ⟨x, parsed⟩, x, rfl⟩
  | error fault =>
    refine .inr ⟨fun listing => ?_, fault, rfl⟩
    obtain ⟨x, read⟩ := taken.mp listing
    rw [parsed] at read
    cases read

/-! ## §2. Questions to endpoints. -/

namespace Act

variable {α β : Type}

/-- What comes of an action in two parts, if the second part only looks at what the first one has
found. -/
theorem fst_run_bind {x : Act α} {g : α → Act β} {f : α → Except AuthError β}
    (looks : ∀ a w, ((g a).run w).1 = f a) (w : World) :
    ((x >>= g).run w).1 = (x.run w).1.bind f := by
  rcases ran : x.run w with ⟨result, next⟩
  cases result with
  | error e => rw [run_bind_error ran]; rfl
  | ok a => rw [run_bind_ok ran]; exact looks a next

theorem exists_run_error_iff {x : Act α} {w : World} {e : AuthError} :
    (∃ last, x.run w = (.error e, last)) ↔ (x.run w).1 = .error e := by
  constructor
  · rintro ⟨last, ran⟩
    rw [ran]
  · intro failed
    exact ⟨(x.run w).2, Prod.ext failed rfl⟩

end Act

/-- What comes of a lookup is what the response comes to, whatever is noted about it. -/
theorem Project.fst_run_lookup {baseUrl number : String} {h : Headers} {u : Url}
    (parsed : Url.parse (baseUrl ++ number) = .ok u) (w : World) :
    ((lookup baseUrl number h).run w).1
      = ((Act.send .projectId ⟨"GET", u, h, .none⟩).run w).1.bind fun response =>
          (response.accepted .projectId).bind (Act.decode record Errand.projectId.doing) := by
  have looks : ∀ raw w, ((do
      let projectId ← Act.lift (Act.decode record Errand.projectId.doing raw)
      Act.note (.debug "resolved project id"
        [("project_number", number), ("project_id", projectId)])
      return projectId : Act String).run w).1
      = Act.decode record Errand.projectId.doing raw := by
    intro raw w
    cases Act.decode record Errand.projectId.doing raw <;> rfl
  unfold lookup
  rw [Act.fst_run_bind looks, Act.run_call _ _ _ _ parsed]
  cases ((Act.send .projectId ⟨"GET", u, h, .none⟩).run w).1 <;> rfl

namespace Query

/-- The question goes to one of three endpoints: for tokens, service accounts or projects. -/
def ToEndpoint : Query → Prop
  | .exchange _ | .impersonation _ _ | .projectId _ _ => True
  | .subjectToken _ _ _ | .target _ _ => False

/-- **A question is answered**, by a response that arrives whole. -/
structure Answered (c : Credentials) (w : World) (q : Query) (raw : RawResponse) : Prop where
  /-- It has headers. -/
  signed : ∃ h, q.headers c = .ok h
  /-- It has an address that HTTP can use. -/
  addressed : q.Addressed c
  /-- Somebody listens. -/
  listening : w.network.listening = true
  /-- The next reply is the response. -/
  reply : ∃ reply, w.network.script.head? = some reply ∧ ∀ u, reply.outcome u = .ok ⟨raw, u, true⟩

/-- What is made of the body of an answer that tells of success. -/
def examine (raw : RawResponse) : Query → Except AuthError Unit
  | .exchange _ => do
    let _ ← TokenAnswer.decode Errand.exchange.doing raw
    .ok ()
  | .impersonation _ _ => do
    let answer ← Act.decode ServiceToken.record Errand.impersonation.doing raw
    let _ ← Impersonation.token answer raw
    .ok ()
  | .projectId _ _ => do
    let _ ← Act.decode Project.record Errand.projectId.doing raw
    .ok ()
  | .subjectToken _ _ _ | .target _ _ => .ok ()

/-- What is made of an answer. -/
def judge (q : Query) (raw : RawResponse) : Except AuthError Unit :=
  if raw.status.isSuccess then q.examine raw else .error (.ofAnswer q.errand.doing raw)

/-- The body lists the fields of the answer that is due. -/
def Listed (body : List UInt8) : Query → Prop
  | .exchange _ => Json.Listing TokenAnswer.ofItems? body
  | .impersonation _ _ => Json.Listing ServiceToken.ofItems? body
  | .projectId _ _ => Json.Listing Project.ofItems? body
  | .subjectToken _ _ _ | .target _ _ => False

variable {c : Credentials} {q : Query} {w : World} {raw : RawResponse}

/-- The request of a question that is answered gets the answer. -/
theorem Answered.run_send (answered : q.Answered c w raw) {errand : Errand} {method : String}
    {u : Url} {h : Headers} {body : Body} (http : u.isHttp = true) :
    ((Act.send errand ⟨method, u, h, body⟩).run w).1 = .ok ⟨raw, u, true⟩ := by
  obtain ⟨reply, next, outcome⟩ := answered.reply
  rw [Act.run_send_told, Network.send_heard http answered.listening, next]
  show Act.told _ (reply.outcome u) = _
  rw [outcome]
  rfl

/-- A whole response is judged by its status first, and then by what comes next. -/
theorem accepted_bind_eq_error_iff {α : Type} {errand : Errand} {u : Url} {e : AuthError}
    (next : RawResponse → Except AuthError α) :
    ((Response.accepted errand ⟨raw, u, true⟩).bind next = .error e) ↔
      (if raw.status.isSuccess then (next raw).bind fun _ => .ok ()
        else .error (.ofAnswer errand.doing raw)) = .error e := by
  have whole : Response.accepted errand ⟨raw, u, true⟩
      = if raw.status.isSuccess then .ok raw else .error (.ofAnswer errand.doing raw) := rfl
  rw [whole]
  cases raw.status.isSuccess with
  | false => simp [Except.bind]
  | true =>
    show next raw = .error e ↔ (next raw).bind _ = .error e
    cases next raw <;> simp [Except.bind]

/-- What comes of a lookup is what the response comes to, whatever is noted about it. -/
theorem fst_run_lookup {number : String} {t : AccessToken} {h : Headers} {u : Url}
    (parsed : Url.parse (c.projectsUrl ++ number) = .ok u)
    (made : bearerHeaders t.token c.quotaProject = .ok h) (w : World) :
    ((lookup c number t).run w).1
      = ((Act.send .projectId ⟨"GET", u, h, .none⟩).run w).1.bind fun response =>
          (response.accepted .projectId).bind
            (Act.decode Project.record Errand.projectId.doing) := by
  unfold lookup
  rw [made, run_bind_ok (Act.run_lift (.ok h) w), Project.fst_run_lookup parsed]

/-- **What comes of a question to an endpoint that is answered** is what is made of the answer. -/
theorem fails_of_answered (endpoint : q.ToEndpoint) (answered : q.Answered c w raw)
    (e : AuthError) : (∃ last, q.Fails c w e last) ↔ q.judge raw = .error e := by
  obtain ⟨h, made⟩ := answered.signed
  obtain ⟨u, addressed, http⟩ := answered.addressed
  have parsed {text : String} (told : (Url.parse text).toOption = some u) :
      Url.parse text = .ok u := toOption_eq_some_iff.mp told
  -- each question is one sending, whose response is known, and then the response is judged
  unfold judge
  cases q with
  | subjectToken _ _ _ | target _ _ => exact endpoint.elim
  | exchange s =>
    refine Act.exists_run_error_iff.trans ?_
    rw [Sts.run_exchange _ (parsed addressed) made, answered.run_send http]
    refine (accepted_bind_eq_error_iff _).trans ?_
    unfold examine
    cases TokenAnswer.decode Errand.exchange.doing raw <;> rfl
  | impersonation url token =>
    refine Act.exists_run_error_iff.trans ?_
    rw [Impersonation.run_generate _ (parsed addressed) made, answered.run_send http]
    refine (accepted_bind_eq_error_iff _).trans ?_
    unfold examine
    cases Act.decode ServiceToken.record Errand.impersonation.doing raw <;> rfl
  | projectId number t =>
    refine Act.exists_run_error_iff.trans ?_
    rw [fst_run_lookup (parsed addressed) made, answered.run_send http]
    exact accepted_bind_eq_error_iff _

/-- A time that is none is no matter of the exchange. -/
theorem family_of_token {answer : ServiceToken} {e : AuthError}
    (failed : Impersonation.token answer raw = .error e) : e.family = .other := by
  unfold Impersonation.token at failed
  split at failed
  · cases failed
    rfl
  · cases failed

/-- A record that is due is refused exactly unless it is listed, whatever is made of it then. -/
theorem decode_refused_iff {σ α : Type} {r : Json.TextRecord σ α} {of : List Json → Option α}
    (lists : r.Lists of) (doing : String) (other : NoObject raw.body)
    {next : α → Except AuthError Unit} (later : ∀ x e, next x = .error e → e.family ≠ .transport) :
    (∃ e, (Act.decode r doing raw).bind next = .error e ∧
        e.family = .transport ∧ e.transient = false) ↔ ¬ Json.Listing of raw.body := by
  rcases Act.decode_cases lists doing other with
    ⟨listing, x, decoded⟩ | ⟨unlisted, fault, decoded⟩
  · rw [decoded]
    exact ⟨fun ⟨e, failed, family, _⟩ => absurd family (later x e failed), absurd listing⟩
  · rw [decoded]
    exact ⟨fun _ => unlisted, fun _ => ⟨_, rfl, rfl, rfl⟩⟩

/-- **An answer that tells of success and begins no object is refused** as a failed exchange for
good, unless its body is a listing. -/
theorem examine_refuses_iff (endpoint : q.ToEndpoint) (other : NoObject raw.body) :
    (∃ e, q.examine raw = .error e ∧ e.family = .transport ∧ e.transient = false) ↔
      ¬ q.Listed raw.body := by
  have accepted {α : Type} (x : α) (e : AuthError) (failed : Except.ok () = .error e) :
      e.family ≠ .transport := by cases failed
  cases q with
  | subjectToken _ _ _ | target _ _ => exact endpoint.elim
  | exchange s => exact decode_refused_iff TokenAnswer.lists Errand.exchange.doing other accepted
  | impersonation url token =>
    refine decode_refused_iff ServiceToken.lists Errand.impersonation.doing other
      fun answer e failed => ?_
    -- a listing may still tell a time that is none
    have untimed : Impersonation.token answer raw = .error e := by
      cases made : Impersonation.token answer raw with
      | error e' =>
        rw [made] at failed
        cases failed
        rfl
      | ok t =>
        rw [made] at failed
        cases failed
    rw [family_of_token untimed]
    exact nofun
  | projectId number t =>
    exact decode_refused_iff Project.lists Errand.projectId.doing other accepted

end Query

/-! ## §3. Answers that tell of failure. -/

/-- **An answer that tells of failure and begins no object is a failed exchange**, unless its body
lists a flat error or encloses the error of an API. -/
theorem AuthError.ofAnswer_unshaped_iff (doing : String) {raw : RawResponse}
    (other : NoObject raw.body) :
    (ofAnswer doing raw).family = .transport ↔
      ¬ Json.Listing OAuthError.ofItems? raw.body ∧ ¬ ∃ e, ApiError.Enclosed raw.body e := by
  have flat := Json.listing_iff OAuthError.lists other
  have object : (∃ e, ApiError.Enclosed raw.body e) ↔ ∃ e, ApiError.parse raw.body = .ok e :=
    exists_congr fun e => (ApiError.parse_enclosed_iff other).symm
  rw [flat, object]
  -- the two shapes are tried one after the other
  unfold ofAnswer OAuthError.parse
  cases OAuthError.record.parse raw.body with
  | ok x => exact ⟨nofun, fun neither => absurd ⟨x, rfl⟩ neither.1⟩
  | error _ =>
    cases ApiError.parse raw.body with
    | ok x => exact ⟨nofun, fun neither => absurd ⟨x, rfl⟩ neither.2⟩
    | error _ => exact ⟨fun _ => ⟨nofun, nofun⟩, fun _ => rfl⟩

/-! ## §4. What the caller is told. -/

/-- **When an answer that is no object is refused.**  A question to an endpoint is answered with a
body that begins no object.  If the answer tells of success, the question fails as an exchange that
failed for good, unless the body lists the fields of the answer that is due: then it is taken for
that answer.  If it tells of failure, it is a failed exchange, unless the body lists the fields of a
flat error or encloses the error of an API.  Whatever the question fails with, whoever made the call
is told of it, and both caches stay as they were. -/
theorem Query.answered_refused_iff {c : Credentials} {q : Query} {w : World} {raw : RawResponse}
    (endpoint : q.ToEndpoint) (answered : q.Answered c w raw) (other : NoObject raw.body) :
    (raw.status.isSuccess = true →
      ((∃ e last, q.Fails c w e last ∧ e.family = .transport ∧ e.transient = false) ↔
        ¬ q.Listed raw.body)) ∧
    (raw.status.isSuccess = false →
      (∃ last, q.Fails c w (.ofAnswer q.errand.doing raw) last) ∧
      ∀ doing, (AuthError.ofAnswer doing raw).family = .transport ↔
        ¬ Json.Listing OAuthError.ofItems? raw.body ∧ ¬ ∃ e, ApiError.Enclosed raw.body e) ∧
    ∀ e last s call here, q.Fails c w e last → c.Puts s call q here → here.world = w →
      c.EndsWith s call e here := by
  have fails := q.fails_of_answered endpoint answered
  unfold judge at fails
  refine ⟨fun success => ?_, fun failure => ⟨?_, fun doing => ?_⟩, ?_⟩
  · -- the answer is accepted, and its body decides
    simp only [success, if_true] at fails
    refine Iff.trans ?_ (q.examine_refuses_iff endpoint other)
    constructor
    · rintro ⟨e, last, failed, refused⟩
      exact ⟨e, (fails e).mp ⟨last, failed⟩, refused⟩
    · rintro ⟨e, failed, refused⟩
      obtain ⟨last, failed⟩ := (fails e).mpr failed
      exact ⟨e, last, failed, refused⟩
  · -- the answer is an error whatever its body is; the body decides of which kind
    exact (fails _).mpr (by rw [failure, if_neg Bool.false_ne_true])
  · exact AuthError.ofAnswer_unshaped_iff doing other
  · rintro e last s call here failed puts rfl
    exact puts.fails failed

/-! ## §5. A text, and a listing. -/

namespace Unshaped

/-- A world in which the token endpoint answers with a body. -/
def world (body : List UInt8) : World where
  network := ⟨true, [.respond 200 .empty body true], []⟩
  files := ⟨[], []⟩
  clock := .start
  subjects := [.token "subject"]
  log := []

/-- A text. -/
def text : List UInt8 := Utf8.encode "\"tok\""

/-- The fields of an answer, listed. -/
def listing : List UInt8 := Utf8.encode "[\"tok\",\"\",\"\",3600,null,null]"

/-- The fields of a flat error, listed. -/
def flat : List UInt8 := Utf8.encode "[\"invalid_request\",null,null]"

/-- The session in which the trade is asked for. -/
def session (body : List UInt8) : Session :=
  { Unreachable.overHttp.session (world body) with
    world := (Unreachable.overHttp.source.retrieve.run
      ((world body).note TokenCache.fetchRecord)).2 }

end Unshaped

open Unreachable Unshaped in
/-- A text is refused, and the caller who asks for a token is told. -/
theorem Query.answered_refused_of_text :
    Json.NoObject text ∧
    ∃ e, trade.Answered overHttp (session text).world ⟨200, .empty, text⟩ ∧
      e.family = .transport ∧ e.transient = false ∧
      overHttp.EndsWith (overHttp.session (world text)) (.token .current) e (session text) := by
  have answered : trade.Answered overHttp (session text).world ⟨200, .empty, text⟩ :=
    ⟨⟨_, rfl⟩, ⟨_, rfl, rfl⟩, rfl, _, rfl, fun _ => rfl⟩
  have parsed : Json.parse text = .ok (.string "tok") := rfl
  have other : Json.NoObject text := Json.noObject_of_parse parsed nofun
  have unlisted : ¬ trade.Listed text := by
    rintro ⟨vs, listed, -⟩
    rw [parsed] at listed
    cases listed
  obtain ⟨success, -, told⟩ :=
    @Query.answered_refused_iff _ trade _ ⟨200, .empty, text⟩ trivial answered other
  obtain ⟨e, last, failed, family, transient⟩ := (success rfl).mpr unlisted
  refine ⟨other, e, answered, family, transient, ?_⟩
  exact told e last _ _ _ failed (.token (.fetch (fun _ => rfl) (.exchange rfl))) rfl

open Unreachable Unshaped in
/-- **A listing is taken for an answer**, and the token in it is cached; and a listing is taken for
a flat error. -/
theorem Query.answered_taken_of_listing :
    Json.NoObject listing ∧
    trade.Answered overHttp (session listing).world ⟨200, .empty, listing⟩ ∧
    (¬ ∃ e last, trade.Fails overHttp (session listing).world e last) ∧
    (∃ t, overHttp.answer (.token .current) (overHttp.session (world listing)) = .token (.ok t) ∧
      t.token = "tok" ∧
      (overHttp.take (.obtain .current) (overHttp.session (world listing))).cache.usable? 0
        = some t) ∧
    Json.NoObject flat ∧
    (AuthError.ofAnswer Errand.exchange.doing ⟨400, .empty, flat⟩).family = .oauth := by
  have answered : trade.Answered overHttp (session listing).world ⟨200, .empty, listing⟩ :=
    ⟨⟨_, rfl⟩, ⟨_, rfl, rfl⟩, rfl, _, rfl, fun _ => rfl⟩
  refine ⟨?_, answered, ?_, ⟨_, rfl, rfl, rfl⟩, ?_, rfl⟩
  · unfold Json.NoObject
    decide
  · rintro ⟨e, failed⟩
    -- all six fields are there
    cases (trade.fails_of_answered trivial answered e).mp failed
  · unfold Json.NoObject
    decide

end WorkloadIdentity
