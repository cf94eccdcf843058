/-
  WorkloadIdentity.Proofs.Credentials.Posts ──── **WHAT IS POSTED FOR A TOKEN.**

  Two requests can be posted: the trade of a subject token at the token endpoint, and the request
  for a token of a service account.  Both are described as the other side reads them, the form as
  its pairs and the JSON text as its value.  The first can always be made; the second can be made
  unless the traded token is no header value.

  Main results:
    * `Act.run_call`             — a request whose answer is read is one sending and a judgement
    * `ClientAuthentication.headers_eq` — id and secret always make a header
    * `Sts.run_exchange`         — what a trade posts, and what comes of it
    * `Impersonation.run_generate`, `Impersonation.run_refused` — the same for a service account
-/
import WorkloadIdentity.Proofs.Credentials.Terms
import WorkloadIdentity.Proofs.Http.FormRoundTrip
import WorkloadIdentity.Proofs.Http.Legality
import WorkloadIdentity.Proofs.Json.TextRoundTrip
import WorkloadIdentity.Proofs.Request.Errands

namespace WorkloadIdentity

/-! ## §1. Requests and answers. -/

/-- What a client makes of a response: an answer, if it can be read whole. -/
def Response.answer (errand : Errand) (response : Response) : Except AuthError RawResponse :=
  match response.read with
  | .error e => .error (.ofClient errand.doing e)
  | .ok raw => .ok raw

/-- An answer that tells of success, and of any other the error that it is. -/
def Response.accepted (errand : Errand) (response : Response) : Except AuthError RawResponse := do
  let raw ← response.answer errand
  if raw.status.isSuccess then .ok raw else .error (.ofAnswer errand.doing raw)

namespace Act

variable {α β : Type}

/-- What only works on a result leaves the world where it is. -/
theorem run_bind_still {x : Act α} {g : α → Act β} {f : α → Except AuthError β}
    (still : ∀ a w, (g a).run w = (f a, w)) (w : World) :
    (x >>= g).run w = ((x.run w).1.bind f, (x.run w).2) := by
  rcases hx : x.run w with ⟨result, next⟩
  cases result with
  | error e => exact run_bind_error hx
  | ok a =>
    rw [run_bind_ok hx]
    exact still a next

theorem run_lift (r : Except AuthError α) (w : World) : (lift r).run w = (r, w) := by
  cases r <;> rfl

section Requests

variable {url : String} {u : Url}

theorem run_exchange (errand : Errand) (method : String) (headers : Headers) (body : Body)
    (parsed : Url.parse url = .ok u) (w : World) :
    (exchange errand method url headers body).run w
      = (((send errand ⟨method, u, headers, body⟩).run w).1.bind (Response.answer errand),
        ((send errand ⟨method, u, headers, body⟩).run w).2) := by
  have prepared : prepare method url headers body = .ok ⟨method, u, headers, body⟩ := by
    unfold prepare
    rw [parsed]
  unfold exchange
  rw [prepared]
  dsimp only
  rcases hsend : (send errand ⟨method, u, headers, body⟩).run w with ⟨sent, next⟩
  cases sent with
  | error e =>
    rw [run_bind_error hsend]
    rfl
  | ok response =>
    rw [run_bind_ok hsend]
    dsimp only [Except.bind, Response.answer]
    cases response.read <;> rfl

/-- **A request whose answer is read** is one sending, and then the response is judged. -/
theorem run_call (errand : Errand) (method : String) (headers : Headers) (body : Body)
    (parsed : Url.parse url = .ok u) (w : World) :
    (call errand method url headers body).run w
      = (((send errand ⟨method, u, headers, body⟩).run w).1.bind (Response.accepted errand),
        ((send errand ⟨method, u, headers, body⟩).run w).2) := by
  have still : ∀ (raw : RawResponse) (w : World),
      (if raw.status.isSuccess then return raw else throw (.ofAnswer errand.doing raw) :
        Act RawResponse).run w
      = (if raw.status.isSuccess then .ok raw else .error (.ofAnswer errand.doing raw), w) := by
    intro raw w
    split <;> rfl
  unfold call
  rw [run_bind_still still, run_exchange errand method headers body parsed]
  cases ((send errand ⟨method, u, headers, body⟩).run w).1 <;> rfl

end Requests

end Act

/-! ## §2. Header values. -/

/-- Whether a character is ASCII and can be printed. -/
def printable (c : Char) : Prop := 32 ≤ c.toNat ∧ c.toNat < 127

theorem ofString?_printable {s : String} (h : ∀ c ∈ s.toList, printable c) :
    HeaderValue.ofString? s = some ⟨Utf8.encode s, false⟩ := by
  have legal : HeaderValue.Legal s := by
    intro c member
    obtain ⟨low, high⟩ := h c member
    refine .inr ⟨Char.le_def.mpr low, ?_⟩
    rintro rfl
    exact absurd high (by decide)
  exact HeaderValue.ofString?_eq_some_iff.mpr ⟨legal, rfl⟩

theorem letter_printable {n : Nat} (h : n < 64) : printable (Base64.letter n) := by
  unfold printable
  interval_cases n <;> decide

theorem base64_printable (bytes : List UInt8) : ∀ c ∈ Base64.encode bytes, printable c := by
  have filler : printable '=' := by unfold printable; decide
  -- the cases are those of the writer: the last group may be short
  induction bytes using Base64.encode.induct with
  | case1 =>
    intro c hc
    cases hc
  | case2 a =>
    have ha := a.toNat_lt
    intro c hc
    simp only [Base64.encode, List.mem_cons, List.not_mem_nil, or_false] at hc
    rcases hc with rfl | rfl | rfl | rfl
    · exact letter_printable (by omega)
    · exact letter_printable (by omega)
    · exact filler
    · exact filler
  | case3 a b =>
    have ha := a.toNat_lt
    have hb := b.toNat_lt
    intro c hc
    simp only [Base64.encode, List.mem_cons, List.not_mem_nil, or_false] at hc
    rcases hc with rfl | rfl | rfl | rfl
    · exact letter_printable (by omega)
    · exact letter_printable (by omega)
    · exact letter_printable (by omega)
    · exact filler
  | case4 a b c rest ih =>
    have ha := a.toNat_lt
    have hb := b.toNat_lt
    have hc := c.toNat_lt
    intro d hd
    simp only [Base64.encode, List.mem_cons] at hd
    rcases hd with rfl | rfl | rfl | rfl | hd
    · exact letter_printable (by omega)
    · exact letter_printable (by omega)
    · exact letter_printable (by omega)
    · exact letter_printable (by omega)
    · exact ih d hd

/-- The header value of an id and a secret. -/
def basicHeader (id secret : String) : HeaderValue :=
  ⟨Utf8.encode ("Basic " ++ String.ofList (Base64.encode (Utf8.encode (id ++ ":" ++ secret)))), true⟩

/-- **An id and a secret always make a header value**, whatever characters they have. -/
theorem basicValue_eq (id secret : String) : basicValue id secret = .ok (basicHeader id secret) := by
  have word : "Basic ".toList = ['B', 'a', 's', 'i', 'c', ' '] := rfl
  have legal : ∀ c ∈ ("Basic " ++
      String.ofList (Base64.encode (Utf8.encode (id ++ ":" ++ secret)))).toList, printable c := by
    intro c hc
    rw [String.toList_append, word, String.toList_ofList] at hc
    -- the word and the letters are all ASCII, whatever id and secret are
    rcases List.mem_append.mp hc with inWord | inLetters
    · simp only [List.mem_cons, List.not_mem_nil, or_false] at inWord
      unfold printable
      rcases inWord with rfl | rfl | rfl | rfl | rfl | rfl <;> decide
    · exact base64_printable _ c inLetters
  unfold basicValue basicHeader
  dsimp only
  rw [ofString?_printable legal]
  dsimp only [HeaderValue.hidden]

/-- What the authentication adds to the headers. -/
def ClientAuthentication.header? : ClientAuthentication → Option HeaderValue
  | .basic id secret => some (basicHeader id secret)
  | .anonymous | .form _ _ => none

/-- **The headers of a client can always be made.** -/
theorem ClientAuthentication.headers_eq (a : ClientAuthentication) (h : Headers) :
    a.headers h = .ok (a.header?.elim h (h.insert authorizationName)) := by
  cases a with
  | anonymous | form => rfl
  | basic id secret =>
    show (do .ok (h.insert authorizationName (← basicValue id secret))) = _
    rw [basicValue_eq]
    rfl

/-- The value that carries a token has the bytes of the token in it, or there is none. -/
theorem bearerValue_cases (token : String) :
    (HeaderValue.ofString? ("Bearer " ++ token) = none ∧
      bearerValue token = .error badHeaderValue) ∨
    bearerValue token = .ok ⟨Utf8.encode ("Bearer " ++ token), true⟩ := by
  by_cases legal : HeaderValue.Legal token
  · exact .inr (bearerValue_of_legal legal)
  · exact .inl ⟨HeaderValue.ofString?_of_illegal (mt legal_bearer_iff.mp legal),
      bearerValue_of_illegal legal⟩

/-! ## §3. What a response comes to. -/

/-- What a response to a trade comes to. -/
def TokenAnswer.ofResponse (response : Response) : Except AuthError TokenAnswer := do
  let raw ← response.accepted .exchange
  let answer ← TokenAnswer.decode Errand.exchange.doing raw
  .ok { answer with response := some raw }

/-- What a response from a service account comes to. -/
def ServiceToken.ofResponse (response : Response) : Except AuthError AccessToken := do
  let raw ← response.accepted .impersonation
  let answer ← Act.decode ServiceToken.record Errand.impersonation.doing raw
  Impersonation.token answer raw

/-- What was decoded is the record that the body holds. -/
theorem parse_of_decode {σ α : Type} {record : Json.TextRecord σ α} {doing : String}
    {raw : RawResponse} {x : α} (h : Act.decode record doing raw = .ok x) :
    record.parse raw.body = .ok x := by
  unfold Act.decode at h
  cases parsed : record.parse raw.body with
  | error e =>
    rw [parsed] at h
    cases h
  | ok y =>
    rw [parsed] at h
    cases h
    rfl

/-- The answer to a trade is what the body of the response holds. -/
theorem TokenAnswer.eq_of_response {response : Response} {answer : TokenAnswer}
    (h : TokenAnswer.ofResponse response = .ok answer) :
    ∃ raw read, response.accepted .exchange = .ok raw ∧
      TokenAnswer.record.parse raw.body = .ok read ∧
      answer = { read with response := some raw } := by
  obtain ⟨raw, accepted, h⟩ := exists_of_bind_ok h
  obtain ⟨read, decoded, h⟩ := exists_of_bind_ok h
  cases h
  exact ⟨raw, read, accepted, parse_of_decode decoded, rfl⟩

/-- The token of a service account is what the body of the response holds, and so is its expiry. -/
theorem ServiceToken.eq_of_response {response : Response} {t : AccessToken}
    (h : ServiceToken.ofResponse response = .ok t) :
    ∃ raw read time, response.accepted .impersonation = .ok raw ∧
      ServiceToken.record.parse raw.body = .ok read ∧
      Timestamp.parse read.expireTime = .ok time ∧
      t = ⟨read.accessToken, some time.unixMillis, some raw⟩ := by
  obtain ⟨raw, accepted, h⟩ := exists_of_bind_ok h
  obtain ⟨read, decoded, h⟩ := exists_of_bind_ok h
  unfold Impersonation.token at h
  cases timed : Timestamp.parse read.expireTime with
  | error e =>
    rw [timed] at h
    cases h
  | ok time =>
    rw [timed] at h
    cases h
    exact ⟨raw, read, time, accepted, parse_of_decode decoded, timed, rfl⟩

/-- **An exchange is one sending**, and its outcome is that of the response. -/
theorem Sts.run_exchange {sts : Sts} {caller h : Headers} {u : Url} (f : ExchangeForm)
    (parsed : Url.parse sts.url = .ok u) (made : sts.headers caller = .ok h) (w : World) :
    (sts.exchange f caller).run w
      = (((Act.send .exchange ⟨"POST", u, h, .bytes (sts.body f)⟩).run w).1.bind
          TokenAnswer.ofResponse,
        ((Act.send .exchange ⟨"POST", u, h, .bytes (sts.body f)⟩).run w).2) := by
  -- all that comes after the request works on the answer only
  have still : ∀ (raw : RawResponse) (w : World),
      (do let answer ← Act.lift (TokenAnswer.decode Errand.exchange.doing raw)
          return { answer with response := some raw } : Act TokenAnswer).run w
      = ((do let answer ← TokenAnswer.decode Errand.exchange.doing raw
             .ok { answer with response := some raw } : Except AuthError TokenAnswer), w) := by
    intro raw w
    cases TokenAnswer.decode Errand.exchange.doing raw <;> rfl
  have lifted : (Act.lift (sts.headers caller)).run w = (.ok h, w) := by rw [made, Act.run_lift]
  unfold Sts.exchange
  rw [run_bind_ok lifted, Act.run_bind_still still, Act.run_call _ _ _ _ parsed]
  cases ((Act.send .exchange ⟨"POST", u, h, .bytes (sts.body f)⟩).run w).1 <;> rfl

/-- **So is the request for a token of a service account.** -/
theorem Impersonation.run_generate {url accessToken : String} {h : Headers} {u : Url}
    (scopes : List String) (parsed : Url.parse url = .ok u) (made : headers accessToken = .ok h)
    (w : World) :
    (generate url accessToken scopes).run w
      = (((Act.send .impersonation ⟨"POST", u, h, .bytes (Utf8.encode (body scopes).render)⟩).run
            w).1.bind ServiceToken.ofResponse,
        ((Act.send .impersonation ⟨"POST", u, h, .bytes (Utf8.encode (body scopes).render)⟩).run
            w).2) := by
  have still : ∀ (raw : RawResponse) (w : World),
      (do let answer ← Act.lift (Act.decode ServiceToken.record Errand.impersonation.doing raw)
          Act.lift (token answer raw) : Act AccessToken).run w
      = ((do let answer ← Act.decode ServiceToken.record Errand.impersonation.doing raw
             token answer raw : Except AuthError AccessToken), w) := by
    intro raw w
    cases Act.decode ServiceToken.record Errand.impersonation.doing raw with
    | error e => rfl
    | ok answer => exact Act.run_lift (token answer raw) w
  have lifted : (Act.lift (headers accessToken)).run w = (.ok h, w) := by rw [made, Act.run_lift]
  unfold generate
  rw [run_bind_ok lifted, Act.run_bind_still still, Act.run_call _ _ _ _ parsed]
  cases ((Act.send .impersonation
    ⟨"POST", u, h, .bytes (Utf8.encode (body scopes).render)⟩).run w).1 <;> rfl

/-! ## §4. What is posted. -/

namespace Config

variable (k : Config) (o : Options)

/-- How the client makes itself known in the end: as the application chose, or else as was said. -/
def client : ClientAuthentication := o.authentication.getD k.authentication

/-- The scopes in the end: those that the application chose, or else those that were said; if
there are none, the one that permits everything. -/
def granted : List String :=
  if o.scopes.getD k.scopes = [] then [platformScope] else o.scopes.getD k.scopes

/-- **The form of a trade**, in order. -/
def tradeForm (subjectToken : String) : List (String × String) :=
  [("grant_type", grantType), ("audience", k.audience),
    ("scope", if k.impersonationUrl.isSome then platformScope else " ".intercalate (k.granted o)),
    ("requested_token_type", accessTokenType), ("subject_token", subjectToken),
    ("subject_token_type", k.subjectTokenType)] ++ (k.client o).pairs

/-- **A request trades a subject token.** -/
structure Trades (subjectToken : String) (r : Request) : Prop where
  /-- It is posted. -/
  method : r.method = "POST"
  /-- It goes to the token endpoint. -/
  url : Url.parse k.tokenUrl = .ok r.url
  /-- Its headers are the type of a form and what the client adds. -/
  headers : r.headers.toList =
    ("content-type", Sts.formType) :: (k.client o).header?.toList.map (authorizationName, ·)
  /-- Its form is read so. -/
  form : Form.decode r.body.content = k.tradeForm o subjectToken

/-- **A request asks for a token of the service account.** -/
structure Impersonates (accessToken : String) (r : Request) : Prop where
  /-- It is posted. -/
  method : r.method = "POST"
  /-- It goes to the URL of the service account. -/
  url : ∃ url, k.impersonationUrl = some url ∧ Url.parse url = .ok r.url
  /-- Its headers are the token and the type of JSON. -/
  headers : r.headers.toList =
    [(authorizationName, ⟨Utf8.encode ("Bearer " ++ accessToken), true⟩),
      ("content-type", Impersonation.jsonType)]
  /-- Its body is read so. -/
  scopes : Json.parse r.body.content
    = .ok (.object [("scope", .array ((k.granted o).map .string))])

end Config

section Posting

variable (k : Config) (o : Options) (environment : Option String)

theorem granted_ne_nil : k.granted o ≠ [] := by
  unfold Config.granted
  split
  · exact List.cons_ne_nil _ _
  · rename_i some_scope
    exact some_scope

theorem credentials_scopes : (k.credentials o environment).scopes = k.granted o := by
  show effectiveScopes o.scopes k.scopes = _
  unfold effectiveScopes Config.granted
  cases o.scopes.getD k.scopes with
  | nil => rfl
  | cons scope scopes => exact (if_neg (List.cons_ne_nil scope scopes)).symm

/-- There is always a scope to ask for. -/
theorem form_scope (subjectToken : String) :
    let scope := ((k.credentials o environment).form subjectToken).scope
    (if scope = [] then none else some (" ".intercalate scope))
      = some (if k.impersonationUrl.isSome then platformScope
          else " ".intercalate (k.granted o)) := by
  have scope : ((k.credentials o environment).form subjectToken).scope
      = if k.impersonationUrl.isSome then [platformScope] else k.granted o := by
    rw [← credentials_scopes k o environment]
    rfl
  dsimp only
  rw [scope]
  cases k.impersonationUrl with
  | none => exact if_neg (granted_ne_nil k o)
  | some url =>
    have single : " ".intercalate [platformScope] = platformScope := rfl
    rw [Option.isSome_some, if_pos rfl, if_pos rfl, if_neg (List.cons_ne_nil _ _), single]

/-- The pairs of the form are those that are wanted. -/
theorem form_pairs (subjectToken : String) :
    ((k.credentials o environment).form subjectToken).pairs ++ (k.client o).pairs
      = k.tradeForm o subjectToken := by
  have scope := form_scope k o environment subjectToken
  unfold Config.tradeForm ExchangeForm.pairs
  rw [scope]
  rfl

variable {k}

/-- **What a trade posts, and what comes of it.** -/
theorem exists_trade (absolute : k.Absolute) (subjectToken : String) :
    ∃ r, k.Trades o subjectToken r ∧ ∀ w,
      ((k.credentials o environment).sts.exchange
          ((k.credentials o environment).form subjectToken) Headers.empty).run w
        = (((Act.send .exchange r).run w).1.bind TokenAnswer.ofResponse,
          ((Act.send .exchange r).run w).2) := by
  obtain ⟨u, parsed⟩ := absolute.tokenUrl
  have made := (k.client o).headers_eq (Headers.empty.insert "content-type" Sts.formType)
  refine ⟨_, ?_, Sts.run_exchange _ parsed made⟩
  exact
    { method := rfl
      url := parsed
      headers := by cases (k.client o).header? <;> rfl
      form := by
        show Form.decode (Form.encode _) = _
        rw [Form.decode_encode]
        exact form_pairs k o environment subjectToken }

/-- The body for a service account is read as what it was written from. -/
theorem parse_body (scopes : List String) :
    Json.parse (Utf8.encode (Impersonation.body scopes).render) = .ok (Impersonation.body scopes) := by
  refine Json.parse_render (Json.readBack_field "scope" (Json.readBack_array ?_))
  intro v hv
  obtain ⟨scope, -, rfl⟩ := List.mem_map.mp hv
  exact Json.readBack_string _ scope

/-- A token that is no header value is not posted. -/
theorem Impersonation.run_refused {accessToken : String} (url : String) (scopes : List String)
    (refused : bearerValue accessToken = .error badHeaderValue) (w : World) :
    (generate url accessToken scopes).run w = (.error badHeaderValue, w) := by
  have unmade : headers accessToken = .error badHeaderValue := by
    unfold headers
    rw [bearerHeaders_error refused]
    rfl
  unfold generate
  rw [unmade]
  rfl

/-- **What is posted for a service account, and what comes of it.** -/
theorem exists_impersonation (absolute : k.Absolute) {url accessToken : String}
    (service : k.impersonationUrl = some url)
    (made : bearerValue accessToken = .ok ⟨Utf8.encode ("Bearer " ++ accessToken), true⟩) :
    ∃ r, k.Impersonates o accessToken r ∧ ∀ w,
      (Impersonation.generate url accessToken (k.granted o)).run w
        = (((Act.send .impersonation r).run w).1.bind ServiceToken.ofResponse,
          ((Act.send .impersonation r).run w).2) := by
  obtain ⟨u, parsed⟩ := absolute.impersonationUrl url service
  have headers : Impersonation.headers accessToken = .ok ((Headers.empty.insert authorizationName
      ⟨Utf8.encode ("Bearer " ++ accessToken), true⟩).insertNew "content-type"
        Impersonation.jsonType) := by
    unfold Impersonation.headers
    rw [bearerHeaders_none made]
    rfl
  refine ⟨_, ?_, Impersonation.run_generate _ parsed headers⟩
  exact
    { method := rfl
      url := ⟨url, service, parsed⟩
      headers := by
        rw [Headers.insertNew_toList]
        have unset : "content-type" ≠ authorizationName := by decide
        simp [Headers.insert, Headers.insert.place, Headers.empty, Headers.contains, unset.symm]
      scopes := by
        dsimp only [Body.content]
        exact parse_body (k.granted o) }

end Posting

end WorkloadIdentity
