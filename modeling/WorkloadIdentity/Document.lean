/-
  WorkloadIdentity.Document ──── **CONFIGURATION DOCUMENTS.**

  A configuration is a JSON object that says who asks for whom, at which token endpoint, with
  subject tokens from where.  Reading it comes in three steps: its type, the kinds of its fields,
  and what the fields say.  **RULE**: required fields are looked for in a fixed order, so of two
  faults the one that comes first there is reported.

  ✓ `Document.ofJson`   — type and kinds
  ✓ `Document.config`   — what the fields say
  ✓ `Config.checked`    — URLs that must be absolute
-/
import WorkloadIdentity.Sts
import WorkloadIdentity.Subject.Source

namespace WorkloadIdentity

/-! ## §1. Documents. -/

/-- The source object of a document. -/
structure SourceDocument where
  /-- A file. -/
  file : Option String
  /-- A URL. -/
  url : Option String
  /-- What is sent to the URL. -/
  headers : Option (List (String × String))
  /-- How the token is found. -/
  format : Option FormatDocument

/-- How it is read. -/
def SourceDocument.record : Json.ValueRecord SourceDocument where
  title := "struct CredentialSourceFile"
  blank := ⟨none, none, none, none⟩
  fields :=
    [.of "file" (Json.optionalOf Json.stringOf) fun d s => { d with file := s },
      .of "url" (Json.optionalOf Json.stringOf) fun d s => { d with url := s },
      .of "headers" (Json.optionalOf Json.stringMapOf) fun d m => { d with headers := m },
      .of "format" (Json.optionalOf FormatDocument.record.read) fun d f => { d with format := f }]

/-- Scopes: one text, or a sequence of texts. -/
def scopesOf : Json.ValueReader (List String)
  | .string s => .ok [s]
  | .array items =>
    match items.mapM fun v => (Json.stringOf v).toOption with
    | some scopes => .ok scopes
    | none => .error (.noForm "ScopesFile")
  | _ => .error (.noForm "ScopesFile")

/-- A document; every field may be missing here. -/
structure Document where
  /-- For whom tokens are. -/
  audience : Option String
  /-- The kind of the subject token. -/
  subjectTokenType : Option String
  /-- The token endpoint. -/
  tokenUrl : Option String
  /-- Where subject tokens come from. -/
  source : Option SourceDocument
  /-- The id of the client. -/
  clientId : Option String
  /-- The secret of the client. -/
  clientSecret : Option String
  /-- Where tokens of a service account come from. -/
  impersonationUrl : Option String
  /-- The project that pays. -/
  quotaProject : Option String
  /-- What tokens shall permit. -/
  scopes : Option (List String)

/-- How it is read. -/
def Document.record : Json.ValueRecord Document where
  title := "struct ExternalAccountFile"
  blank := ⟨none, none, none, none, none, none, none, none, none⟩
  fields :=
    [.of "audience" (Json.optionalOf Json.stringOf) fun d s => { d with audience := s },
      .of "subject_token_type" (Json.optionalOf Json.stringOf)
        fun d s => { d with subjectTokenType := s },
      .of "token_url" (Json.optionalOf Json.stringOf) fun d s => { d with tokenUrl := s },
      .of "credential_source" (Json.optionalOf SourceDocument.record.read)
        fun d s => { d with source := s },
      .of "client_id" (Json.optionalOf Json.stringOf) fun d s => { d with clientId := s },
      .of "client_secret" (Json.optionalOf Json.stringOf) fun d s => { d with clientSecret := s },
      .of "service_account_impersonation_url" (Json.optionalOf Json.stringOf)
        fun d s => { d with impersonationUrl := s },
      .of "quota_project_id" (Json.optionalOf Json.stringOf) fun d s => { d with quotaProject := s },
      .of "scopes" (Json.optionalOf scopesOf) fun d s => { d with scopes := s }]

/-- The one type of credentials that this library handles. -/
def documentType : String := "external_account"

/-- The type of a document must be the known one. -/
def checkType (v : Json) : Except ConfigError Unit :=
  match v.field? "type" with
  | none => .error (.missing "type")
  | some (.string t) => if t = documentType then .ok () else .error (.otherType ("\"" ++ t ++ "\""))
  | some other => .error (.otherType other.render)

/-- **The document of a value.** -/
def Document.ofJson (v : Json) : Except ConfigError Document := do
  checkType v
  match Document.record.read v with
  | .ok d => .ok d
  | .error m => .error (.malformed ⟨.mismatch m, none⟩)

/-- **The document of a text.** -/
def Document.parse (text : List UInt8) : Except ConfigError Document := do
  match Json.parse text with
  | .ok v => Document.ofJson v
  | .error e => .error (.malformed e)

/-! ## §2. Configurations. -/

/-- A configuration. -/
structure Config where
  /-- For whom tokens are. -/
  audience : String
  /-- The kind of the subject token. -/
  subjectTokenType : String
  /-- The token endpoint. -/
  tokenUrl : String
  /-- How the client makes itself known. -/
  authentication : ClientAuthentication
  /-- Where subject tokens come from. -/
  source : SubjectSource
  /-- Where tokens of a service account come from. -/
  impersonationUrl : Option String
  /-- The project that pays. -/
  quotaProject : Option String
  /-- What tokens shall permit. -/
  scopes : List String

/-- A field must hold an absolute URL. -/
def checkUrl (field value : String) : Except ConfigError Unit :=
  match Url.parse value with
  | .ok _ => .ok ()
  | .error e => .error (.badUrl field value e)

/-- **The configuration, if its URLs are absolute.** -/
def Config.checked (c : Config) : Except ConfigError Config := do
  checkUrl "token_url" c.tokenUrl
  match c.impersonationUrl with
  | none => .ok c
  | some url =>
    checkUrl "service_account_impersonation_url" url
    .ok c

/-- A field that has to be there. -/
def required {α : Type} (field : String) : Option α → Except ConfigError α
  | some x => .ok x
  | none => .error (.missing field)

/-- The source of a source object: exactly one of a file and a URL. -/
def SourceDocument.source (d : SourceDocument) : Except ConfigError SubjectSource := do
  let format ← SourceFormat.ofDocument d.format
  match d.file, d.url with
  | some path, none => .ok (.file path format)
  | none, some url =>
    checkUrl "credential_source.url" url
    .ok (.url url (← SubjectSource.urlHeaders (d.headers.getD [])) format)
  | some _, some _ => .error (.sourceCount true)
  | none, none => .error (.sourceCount false)

/-- The authentication that a client id selects; a missing secret is empty. -/
def Document.authentication (d : Document) : ClientAuthentication :=
  match d.clientId with
  | none => .anonymous
  | some id => .basic id (d.clientSecret.getD "")

/-- **What a document says.** -/
def Document.config (d : Document) : Except ConfigError Config := do
  let audience ← required "audience" d.audience
  let subjectTokenType ← required "subject_token_type" d.subjectTokenType
  let tokenUrl ← required "token_url" d.tokenUrl
  let source ← required "credential_source" d.source
  let source ← source.source
  Config.checked
    ⟨audience, subjectTokenType, tokenUrl, d.authentication, source, d.impersonationUrl,
      d.quotaProject, d.scopes.getD []⟩

/-- What an application says that brings its own subject tokens. -/
structure Declaration where
  /-- For whom tokens are. -/
  audience : Option String
  /-- The kind of the subject token. -/
  subjectTokenType : Option String
  /-- The token endpoint. -/
  tokenUrl : Option String
  /-- Where tokens of a service account come from. -/
  impersonationUrl : Option String

/-- **What a declaration says.** -/
def Declaration.config (d : Declaration) : Except ConfigError Config := do
  let audience ← required "audience" d.audience
  let subjectTokenType ← required "subject_token_type" d.subjectTokenType
  let tokenUrl ← required "token_url" d.tokenUrl
  Config.checked
    ⟨audience, subjectTokenType, tokenUrl, .anonymous, .application, d.impersonationUrl, none, []⟩

end WorkloadIdentity
