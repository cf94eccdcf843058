/-
  WorkloadIdentity.Proofs.Credentials.Terms ──── **WHAT A SETUP SAYS.**

  Whatever credentials are set up from, what they will do was said there or chosen by the
  application.  Here is what was said: field by field of a document or of a declaration, and
  nothing that was not.

  Main results:
    * `Document.declares_of_config`, `Declaration.declares_of_config` — a configuration says what its
      document or declaration says
    * `Setup.declares_of_build` — so do credentials, up to what the application chose
-/
import WorkloadIdentity.Credentials.Setup
import WorkloadIdentity.Proofs.Json.Fields

namespace WorkloadIdentity

/-! ## §1. What is said. -/

/-- A document says the terms of a configuration. -/
structure Document.Declares (d : Document) (k : Config) : Prop where
  /-- For whom tokens are. -/
  audience : d.audience = some k.audience
  /-- The kind of the subject token. -/
  subjectTokenType : d.subjectTokenType = some k.subjectTokenType
  /-- The token endpoint. -/
  tokenUrl : d.tokenUrl = some k.tokenUrl
  /-- Where subject tokens come from. -/
  source : ∃ s, d.source = some s ∧ s.source = .ok k.source
  /-- How the client makes itself known: in a header if there is an id, and else not at all. -/
  authentication : k.authentication =
    (d.clientId.map fun id => .basic id (d.clientSecret.getD "")).getD .anonymous
  /-- Where tokens of a service account come from. -/
  impersonationUrl : k.impersonationUrl = d.impersonationUrl
  /-- What tokens shall permit. -/
  scopes : k.scopes = d.scopes.getD []

/-- A declaration says the terms of a configuration; the application is the source, and neither a
client nor scopes are declared. -/
structure Declaration.Declares (d : Declaration) (k : Config) : Prop where
  /-- For whom tokens are. -/
  audience : d.audience = some k.audience
  /-- The kind of the subject token. -/
  subjectTokenType : d.subjectTokenType = some k.subjectTokenType
  /-- The token endpoint. -/
  tokenUrl : d.tokenUrl = some k.tokenUrl
  /-- Where subject tokens come from. -/
  source : k.source = .application
  /-- How the client makes itself known. -/
  authentication : k.authentication = .anonymous
  /-- Where tokens of a service account come from. -/
  impersonationUrl : k.impersonationUrl = d.impersonationUrl
  /-- What tokens shall permit. -/
  scopes : k.scopes = []

/-- **What a setup says**, in whichever form it comes. -/
inductive Setup.Declares (files : FileSystem) (k : Config) : Setup → Prop where
  /-- A document. -/
  | document {v : Json} {d : Document} (read : Document.ofJson v = .ok d) (declared : d.Declares k) :
      Declares files k (.document v)
  /-- A file with a document. -/
  | file {path : String} {d : Document} (read : Document.ofFile files path = .ok d)
      (declared : d.Declares k) : Declares files k (.file path)
  /-- A declaration. -/
  | declaration {d : Declaration} (declared : d.Declares k) : Declares files k (.declaration d)

/-- The URLs of a configuration are absolute. -/
structure Config.Absolute (k : Config) : Prop where
  /-- The token endpoint. -/
  tokenUrl : ∃ u, Url.parse k.tokenUrl = .ok u
  /-- Where tokens of a service account come from. -/
  impersonationUrl : ∀ url, k.impersonationUrl = some url → ∃ u, Url.parse url = .ok u

/-! ## §2. What has been accepted. -/

theorem eq_some_of_required {α : Type} {field : String} {x : Option α} {a : α}
    (h : required field x = .ok a) : x = some a := by
  cases x with
  | none => cases h
  | some b =>
    cases h
    rfl

theorem exists_of_checkUrl {field value : String} (h : checkUrl field value = .ok ()) :
    ∃ u, Url.parse value = .ok u := by
  unfold checkUrl at h
  cases parsed : Url.parse value with
  | error e =>
    rw [parsed] at h
    cases h
  | ok u => exact ⟨u, rfl⟩

/-- The check of the URLs changes nothing. -/
theorem Config.eq_of_checked {k k' : Config} (h : k.checked = .ok k') : k' = k ∧ k.Absolute := by
  unfold Config.checked at h
  obtain ⟨_, token, h⟩ := exists_of_bind_ok h
  cases imp : k.impersonationUrl with
  | none =>
    rw [imp] at h
    cases h
    exact ⟨rfl, exists_of_checkUrl token, fun url some => by rw [imp] at some; cases some⟩
  | some url =>
    rw [imp] at h
    obtain ⟨_, service, h⟩ := exists_of_bind_ok h
    cases h
    refine ⟨rfl, exists_of_checkUrl token, fun url' some => ?_⟩
    rw [imp] at some
    cases some
    exact exists_of_checkUrl service

/-- **The configuration of a document says what the document says.** -/
theorem Document.declares_of_config {d : Document} {k : Config} (h : d.config = .ok k) :
    d.Declares k ∧ k.Absolute := by
  unfold Document.config at h
  -- the required fields in the order in which they are looked for, then the source, then the URLs
  obtain ⟨audience, haudience, h⟩ := exists_of_bind_ok h
  obtain ⟨subjectTokenType, htype, h⟩ := exists_of_bind_ok h
  obtain ⟨tokenUrl, hurl, h⟩ := exists_of_bind_ok h
  obtain ⟨document, hdocument, h⟩ := exists_of_bind_ok h
  obtain ⟨source, hsource, h⟩ := exists_of_bind_ok h
  obtain ⟨rfl, absolute⟩ := Config.eq_of_checked h
  refine ⟨?_, absolute⟩
  exact
    { audience := eq_some_of_required haudience
      subjectTokenType := eq_some_of_required htype
      tokenUrl := eq_some_of_required hurl
      source := ⟨document, eq_some_of_required hdocument, hsource⟩
      authentication := by
        show d.authentication = _
        unfold Document.authentication
        cases d.clientId <;> rfl
      impersonationUrl := rfl
      scopes := rfl }

/-- **The configuration of a declaration says what the declaration says.** -/
theorem Declaration.declares_of_config {d : Declaration} {k : Config} (h : d.config = .ok k) :
    d.Declares k ∧ k.Absolute := by
  unfold Declaration.config at h
  obtain ⟨audience, haudience, h⟩ := exists_of_bind_ok h
  obtain ⟨subjectTokenType, htype, h⟩ := exists_of_bind_ok h
  obtain ⟨tokenUrl, hurl, h⟩ := exists_of_bind_ok h
  obtain ⟨rfl, absolute⟩ := Config.eq_of_checked h
  refine ⟨?_, absolute⟩
  exact
    { audience := eq_some_of_required haudience
      subjectTokenType := eq_some_of_required htype
      tokenUrl := eq_some_of_required hurl
      source := rfl
      authentication := rfl
      impersonationUrl := rfl
      scopes := rfl }

/-! ## §3. Setups. -/

theorem Setup.declares_of_config {setup : Setup} {files : FileSystem} {k : Config}
    {records : List LogRecord} (h : setup.config files = .ok (k, records)) :
    setup.Declares files k ∧ k.Absolute := by
  cases setup with
  | document v =>
    obtain ⟨d, hread, h⟩ := exists_of_bind_ok h
    obtain ⟨k', hconfig, h⟩ := exists_of_bind_ok h
    cases h
    obtain ⟨declared, absolute⟩ := Document.declares_of_config hconfig
    exact ⟨.document hread declared, absolute⟩
  | file path =>
    obtain ⟨d, hread, h⟩ := exists_of_bind_ok h
    obtain ⟨k', hconfig, h⟩ := exists_of_bind_ok h
    cases h
    obtain ⟨declared, absolute⟩ := Document.declares_of_config hconfig
    exact ⟨.file hread declared, absolute⟩
  | declaration d =>
    obtain ⟨k', hconfig, h⟩ := exists_of_bind_ok h
    cases h
    obtain ⟨declared, absolute⟩ := Declaration.declares_of_config hconfig
    exact ⟨.declaration declared, absolute⟩

/-- **Credentials are made of what was said and what was chosen.** -/
theorem Setup.declares_of_build {setup : Setup} {o : Options} {environment : Option String}
    {files : FileSystem} {c : Credentials} {records : List LogRecord}
    (h : setup.build o environment files = .ok (c, records)) :
    ∃ k, setup.Declares files k ∧ k.Absolute ∧ c = k.credentials o environment := by
  obtain ⟨⟨k, records'⟩, hconfig, h⟩ := exists_of_bind_ok h
  cases h
  obtain ⟨declared, absolute⟩ := Setup.declares_of_config hconfig
  exact ⟨k, declared, absolute, rfl⟩

end WorkloadIdentity
