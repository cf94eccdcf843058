/-
  WorkloadIdentity.Credentials.Setup ──── **SETTING CREDENTIALS UP.**

  A configuration and some options make credentials.  **RULE**: an option wins over the
  environment, and the environment over the configuration; scopes that are empty in the end become
  the default scope.

  ✓ `RefreshPolicy`, `Options`  — what an application can choose
  ✓ `Config.credentials`        — configuration and options together
  ✓ `Setup.build`               — from a document, a file or a declaration
-/
import WorkloadIdentity.Document
import WorkloadIdentity.Project

namespace WorkloadIdentity

/-! ## §1. Choices. -/

/-- When tokens are fetched anew. -/
structure RefreshPolicy where
  /-- How long before its expiry a token is no longer used. -/
  threshold : Span
  /-- Whether a refused request is sent a second time with a fresh token. -/
  retryRefused : Bool
  deriving DecidableEq

/-- Five minutes, and no second sending. -/
def RefreshPolicy.standard : RefreshPolicy := ⟨⟨300, 0⟩, false⟩

/-- What an application can choose. -/
structure Options where
  /-- The project that pays. -/
  quotaProject : Option String
  /-- What tokens shall permit. -/
  scopes : Option (List String)
  /-- When tokens are fetched anew. -/
  policy : RefreshPolicy
  /-- Where project ids are asked for. -/
  projectsUrl : Option String
  /-- How the client makes itself known. -/
  authentication : Option ClientAuthentication

/-- Nothing chosen. -/
def Options.standard : Options := ⟨none, none, RefreshPolicy.standard, none, none⟩

/-! ## §2. Credentials. -/

/-- The scope that permits everything. -/
def platformScope : String := "https://www.googleapis.com/auth/cloud-platform"

/-- Where project ids are asked for, if nothing else is chosen. -/
def standardProjectsUrl : String := "https://cloudresourcemanager.googleapis.com/v1/projects/"

/-- **Credentials**: all that stays the same while they are used. -/
structure Credentials where
  /-- Where subject tokens come from. -/
  source : SubjectSource
  /-- The token endpoint. -/
  sts : Sts
  /-- Where tokens of a service account come from. -/
  impersonationUrl : Option String
  /-- For whom tokens are. -/
  audience : String
  /-- The kind of the subject token. -/
  subjectTokenType : String
  /-- What tokens shall permit. -/
  scopes : List String
  /-- The project that pays. -/
  quotaProject : Option String
  /-- When tokens are fetched anew. -/
  policy : RefreshPolicy
  /-- The number of the project behind the audience. -/
  projectNumber : Option String
  /-- Where project ids are asked for. -/
  projectsUrl : String

/-- The scopes in the end. -/
def effectiveScopes (chosen : Option (List String)) (configured : List String) : List String :=
  match chosen.getD configured with
  | [] => [platformScope]
  | scopes => scopes

/-- **Credentials of a configuration and options**; `environment` is the project that pays
according to the environment. -/
def Config.credentials (c : Config) (o : Options) (environment : Option String) : Credentials where
  source := c.source
  sts := ⟨c.tokenUrl, o.authentication.getD c.authentication⟩
  impersonationUrl := c.impersonationUrl
  audience := c.audience
  subjectTokenType := c.subjectTokenType
  scopes := effectiveScopes o.scopes c.scopes
  quotaProject := (o.quotaProject.or environment).or c.quotaProject
  policy := o.policy
  projectNumber := projectNumber? c.audience
  projectsUrl := o.projectsUrl.getD standardProjectsUrl

/-! ## §3. Setting up. -/

/-- What credentials are made from. -/
inductive Setup where
  /-- A document. -/
  | document (v : Json)
  /-- A file with a document. -/
  | file (path : String)
  /-- A declaration by an application that brings its own subject tokens. -/
  | declaration (d : Declaration)

/-- The record of a document that has been accepted. -/
def setupRecord (c : Config) : LogRecord :=
  .debug "creating external account credentials"
    [("audience", c.audience),
      ("impersonation", if c.impersonationUrl.isSome then "true" else "false")]

/-- The document of a file. -/
def Document.ofFile (files : FileSystem) (path : String) : Except ConfigError Document :=
  match files.readText path with
  | .error e => .error (.unreadable e)
  | .ok content => Document.parse (Utf8.encode content)

/-- The configuration, and what is logged about it: nothing for a declaration. -/
def Setup.config (files : FileSystem) : Setup → Except ConfigError (Config × List LogRecord)
  | .document v => do
    let c ← (← Document.ofJson v).config
    .ok (c, [setupRecord c])
  | .file path => do
    let c ← (← Document.ofFile files path).config
    .ok (c, [setupRecord c])
  | .declaration d => do .ok (← d.config, [])

/-- **Credentials, and what is logged about them.** -/
def Setup.build (s : Setup) (o : Options) (environment : Option String) (files : FileSystem) :
    Except ConfigError (Credentials × List LogRecord) := do
  let (c, records) ← s.config files
  .ok (c.credentials o environment, records)

end WorkloadIdentity
