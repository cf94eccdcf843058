/-
  WorkloadIdentity.Proofs.Sts.Posted ──── **WHAT AN EXCHANGE SENDS, AS ITS RECEIVER READS IT.**

  An exchange posts one form.  The form is described by its fields, each with a value or without
  one, and the headers by the values of their names.  The receiver is strict: a piece of the form
  that is no pair of UTF-8 texts is not read at all, and the options are read from their text by a
  reader that takes nothing but compact texts.

  Main results:
    * `Sts.exists_posted`         — one request is posted if the address is a URL, none otherwise
    * `Sts.exchange_posts_fields` — the form has the fields that it should have, and no other
    * `Sts.exchange_posts_client` — the client is made known in one place and nowhere else
-/
import WorkloadIdentity.Proofs.Credentials.Sendings
import WorkloadIdentity.Proofs.Json.Compact
import WorkloadIdentity.Proofs.Text.Base64RoundTrip

namespace WorkloadIdentity

/-! ## §1. The fields of a form. -/

/-- The id and the secret that stand in the form. -/
def ClientAuthentication.inForm : ClientAuthentication → Option (String × String)
  | .form id secret => some (id, secret)
  | .anonymous | .basic _ _ => none

/-- The fields by which the client makes itself known in the form. -/
def ClientAuthentication.fields (a : ClientAuthentication) : List (String × Option String) :=
  [("client_id", a.inForm.map (·.1)), ("client_secret", a.inForm.map (·.2))]

/-- **All fields of a form, in order**, each with its value if it has one; the options have the
given text. -/
def ExchangeForm.fields (f : ExchangeForm) (options : Option String) (a : ClientAuthentication) :
    List (String × Option String) :=
  [("grant_type", some grantType), ("resource", f.resource), ("audience", some f.audience),
    ("scope", if f.scope = [] then none else some (" ".intercalate f.scope)),
    ("requested_token_type", some accessTokenType), ("subject_token", some f.subjectToken),
    ("subject_token_type", some f.subjectTokenType),
    ("actor_token", f.actingParty.map (·.token)),
    ("actor_token_type", f.actingParty.map (·.tokenType)),
    ("options", options)] ++ a.fields

/-- **A text tells of the options of a form**: there is one if there are options, and whoever reads
it as a compact text has their value. -/
structure ExchangeForm.Tells (f : ExchangeForm) (options : Option String) : Prop where
  /-- There is a text for options, and none for none. -/
  present : options.isSome = f.options.isSome
  /-- The text gives the value. -/
  value : ∀ v ∈ f.options, v.Proper → ∀ text ∈ options, Json.Compact.read? text = some v

/-- The compact text does. -/
theorem ExchangeForm.tells_render (f : ExchangeForm) : f.Tells (f.options.map Json.render) where
  present := Option.isSome_map
  value v given proper text written := by
    rw [given, Option.map_some] at written
    cases written
    exact Json.Compact.read?_render proper

theorem present_cons (name : String) (value : Option String)
    (rest : List (String × Option String)) :
    Form.present ((name, value) :: rest) = optionalPair name value ++ Form.present rest := by
  cases value <;> rfl

theorem ClientAuthentication.pairs_eq_present (a : ClientAuthentication) :
    a.pairs = Form.present a.fields := by
  cases a <;> rfl

/-- The pairs of a form are its fields that have a value. -/
theorem ExchangeForm.pairs_eq_present (f : ExchangeForm) (a : ClientAuthentication) :
    f.pairs ++ a.pairs = Form.present (f.fields (f.options.map Json.render) a) := by
  have always (name value : String) : optionalPair name (some value) = [(name, value)] := rfl
  rw [a.pairs_eq_present]
  simp only [ExchangeForm.pairs, ExchangeForm.fields, List.cons_append, List.nil_append,
    present_cons, always, List.append_assoc]

theorem ExchangeForm.names_distinct (f : ExchangeForm) (options : Option String)
    (a : ClientAuthentication) : ((f.fields options a).map (·.1)).Nodup := by
  show ["grant_type", "resource", "audience", "scope", "requested_token_type", "subject_token",
    "subject_token_type", "actor_token", "actor_token_type", "options", "client_id",
    "client_secret"].Nodup
  decide

/-! ## §2. The request. -/

namespace Sts

variable (s : Sts) (f : ExchangeForm) (caller : Headers)

/-- A strict receiver reads the fields that have a value. -/
theorem read?_body : Form.read? (s.body f)
    = some (Form.present (f.fields (f.options.map Json.render) s.authentication)) := by
  -- there is always a grant, and so the form is not empty
  have some_pair : Form.present (f.fields (f.options.map Json.render) s.authentication) ≠ [] :=
    List.cons_ne_nil _ _
  rw [body, ExchangeForm.pairs_eq_present, Form.read?_encode some_pair]

/-- What a receiver reads for a field is its value. -/
theorem valuesOf_body {name : String} {value : Option String}
    (h : (name, value) ∈ f.fields (f.options.map Json.render) s.authentication) :
    (Form.read? (s.body f)).map (Form.valuesOf name) = some value.toList := by
  rw [read?_body, Option.map_some, Form.valuesOf_present (f.names_distinct _ _) h]

/-- **An exchange posts one request if the address is a URL**, and it arrives if somebody hears it;
otherwise there is no request. -/
theorem exists_posted (w : World) :
    ∃ posted : Option Request,
      World.Received ((posted.toList.map (⟨.exchange, ·⟩)).filter (w.network.hears ·.request)) w
        ((s.exchange f caller).run w).2 ∧
      (posted.isSome = true ↔ ∃ u, Url.parse s.url = .ok u) ∧
      ∀ r ∈ posted, r.method = "POST" ∧ Url.parse s.url = .ok r.url ∧
        s.headers caller = .ok r.headers ∧ r.body.content = s.body f := by
  obtain ⟨h, made⟩ : ∃ h, s.headers caller = .ok h := ⟨_, s.authentication.headers_eq _⟩
  have received : World.Received ((Act.written .exchange "POST" s.url h (.bytes (s.body f))).filter
      (w.network.hears ·.request)) w ((s.exchange f caller).run w).2 := by
    unfold exchange
    rw [made, run_bind_ok (Act.run_lift (.ok h) w)]
    exact Act.received_then (Act.call_received _ _ _ _ _ w) fun _ =>
      Act.follows_then (Act.follows_lift _) fun _ => Act.follows_pure _
  unfold Act.written at received
  cases parsed : Url.parse s.url with
  | error e =>
    rw [parsed] at received
    exact ⟨none, received, by simp, by simp⟩
  | ok u =>
    rw [parsed] at received
    refine ⟨some ⟨"POST", u, h, .bytes (s.body f)⟩, received, by simp, ?_⟩
    rintro r ⟨⟩
    exact ⟨rfl, rfl, made, rfl⟩

/-! ## §3. The form. -/

/-- **A request posts the fields of a form**, with a text for its options: a strict receiver reads
exactly those that have a value, in order, and for each field its own value and no other. -/
structure PostsFields (options : Option String) (r : Request) : Prop where
  /-- It is posted. -/
  method : r.method = "POST"
  /-- It goes to the token endpoint. -/
  url : Url.parse s.url = .ok r.url
  /-- The text gives the options back. -/
  told : f.Tells options
  /-- The pairs that are read. -/
  form : Form.read? r.body.content = some (Form.present (f.fields options s.authentication))
  /-- What is read for each field. -/
  values : ∀ name value, (name, value) ∈ f.fields options s.authentication →
    (Form.read? r.body.content).map (Form.valuesOf name) = some value.toList

/-- **The form of an exchange arrives as it was meant**, whatever characters its values have and
whatever value its options are. -/
theorem exchange_posts_fields (w : World) :
    ∃ posted : Option Request,
      World.Received ((posted.toList.map (⟨.exchange, ·⟩)).filter (w.network.hears ·.request)) w
        ((s.exchange f caller).run w).2 ∧
      (posted.isSome = true ↔ ∃ u, Url.parse s.url = .ok u) ∧
      ∀ r ∈ posted, ∃ options, s.PostsFields f options r := by
  obtain ⟨posted, received, whether, what⟩ := s.exists_posted f caller w
  refine ⟨posted, received, whether, fun r hr => ⟨f.options.map Json.render, ?_⟩⟩
  obtain ⟨method, url, -, body⟩ := what r hr
  exact
    { method := method
      url := url
      told := f.tells_render
      form := by rw [body, read?_body]
      values := fun name value h => by rw [body, valuesOf_body s f h] }

/-! ## §4. The client. -/

/-- **A request makes the client known as it should be**, and keeps the caller's headers apart from
those that an exchange sets itself. -/
structure PostsClient (r : Request) : Prop where
  /-- The type of a form is the only type. -/
  contentType : r.headers.values "content-type" = [formType]
  /-- In a header: one value, hidden, whose letters stand for the id and the secret. -/
  basic : ∀ id secret, s.authentication = .basic id secret →
    ∃ letters, r.headers.values authorizationName
        = [⟨Utf8.encode ("Basic " ++ String.ofList letters), true⟩] ∧
      Base64.decode? letters = some (Utf8.encode (id ++ ":" ++ secret))
  /-- Otherwise the headers are the caller's with the type of a form, and nothing of the client. -/
  bare : (∀ id secret, s.authentication ≠ .basic id secret) →
    r.headers = caller.insert "content-type" formType ∧
      r.headers.values authorizationName = caller.values authorizationName
  /-- All other headers of the caller are sent. -/
  kept : ∀ name, name ≠ "content-type" → name ≠ authorizationName →
    r.headers.values name = caller.values name
  /-- In the form: the id and the secret once each, or not at all. -/
  fields : ∀ name value, (name, value) ∈ s.authentication.fields →
    (Form.read? r.body.content).map (Form.valuesOf name) = some value.toList

variable {s f caller}

/-- The headers that are made have the values that they should have. -/
theorem postsClient_of_headers {r : Request} (made : s.headers caller = .ok r.headers)
    (body : r.body.content = s.body f) : s.PostsClient caller r := by
  have differ : "content-type" ≠ authorizationName := by decide
  have form (name : String) (value : Option String)
      (h : (name, value) ∈ s.authentication.fields) :
      (Form.read? r.body.content).map (Form.valuesOf name) = some value.toList := by
    rw [body]
    exact valuesOf_body s f (List.mem_append_right _ h)
  have sent := Except.ok.inj
    ((s.authentication.headers_eq (caller.insert "content-type" formType)).symm.trans made)
  cases how : s.authentication.header? with
  | none =>
    -- nothing is put into the headers but the type of a form
    rw [how, Option.elim_none] at sent
    have values (name : String) : r.headers.values name
        = if name = "content-type" then [formType] else caller.values name := by
      rw [← sent, Headers.values_insert]
    refine ⟨by rw [values, if_pos rfl], ?_, ?_, ?_, form⟩
    · intro id secret basic
      rw [basic] at how
      cases how
    · exact fun _ => ⟨sent.symm, by rw [values, if_neg differ.symm]⟩
    · exact fun name type _ => by rw [values, if_neg type]
  | some value =>
    -- only an id and a secret that are put there make another value
    obtain ⟨id, secret, basic, rfl⟩ : ∃ id secret, s.authentication = .basic id secret ∧
        basicHeader id secret = value := by
      cases known : s.authentication with
      | basic id secret =>
        rw [known] at how
        exact ⟨id, secret, rfl, Option.some.inj how⟩
      | anonymous | form =>
        rw [known] at how
        cases how
    rw [how, Option.elim_some] at sent
    have values (name : String) : r.headers.values name
        = if name = authorizationName then [basicHeader id secret]
          else if name = "content-type" then [formType] else caller.values name := by
      rw [← sent, Headers.values_insert, Headers.values_insert]
    refine ⟨by rw [values, if_neg differ, if_pos rfl], ?_, ?_, ?_, form⟩
    · intro id' secret' basic'
      cases basic.symm.trans basic'
      exact ⟨_, by rw [values, if_pos rfl]; rfl, Base64.decode?_encode _⟩
    · exact fun none_basic => absurd basic (none_basic id secret)
    · exact fun name type own => by rw [values, if_neg own, if_neg type]

variable (s f caller)

/-- **A client can always be made known, and is so in one place only.**  No id and no secret is
refused; in the header it replaces what the caller set there, and only then. -/
theorem exchange_posts_client :
    (∀ h, ∃ h', s.authentication.headers h = .ok h') ∧
    ∀ w, ∃ posted : Option Request,
      World.Received ((posted.toList.map (⟨.exchange, ·⟩)).filter (w.network.hears ·.request)) w
        ((s.exchange f caller).run w).2 ∧
      (posted.isSome = true ↔ ∃ u, Url.parse s.url = .ok u) ∧
      ∀ r ∈ posted, s.PostsClient caller r := by
  refine ⟨fun h => ⟨_, s.authentication.headers_eq h⟩, fun w => ?_⟩
  obtain ⟨posted, received, whether, what⟩ := s.exists_posted f caller w
  refine ⟨posted, received, whether, fun r hr => ?_⟩
  obtain ⟨-, -, made, body⟩ := what r hr
  exact postsClient_of_headers made body

end Sts

end WorkloadIdentity
