/-
  WorkloadIdentity.Subject.Format ──── **HOW A SUBJECT TOKEN IS FOUND IN A CONTENT.**

  The content is the token, or it is a JSON object with the token in a named field.  **RULE**: an
  empty token is never found.

  ✓ `SourceFormat.ofDocument` — from the format object of a configuration
  ✓ `SourceFormat.extract`    — the token of a content
-/
import WorkloadIdentity.Error.Config

namespace WorkloadIdentity

/-! ## §1. The format object. -/

/-- The format object of a configuration. -/
structure FormatDocument where
  /-- Which format. -/
  type : Option String
  /-- The field that holds the token. -/
  fieldName : Option String
  deriving DecidableEq

/-- How it is read. -/
def FormatDocument.record : Json.ValueRecord FormatDocument where
  title := "struct CredentialSourceFormat"
  blank := ⟨none, none⟩
  fields :=
    [.of "type" (Json.optionalOf Json.stringOf) fun d s => { d with type := s },
      .of "subject_token_field_name" (Json.optionalOf Json.stringOf)
        fun d s => { d with fieldName := s }]

/-! ## §2. Formats. -/

/-- **A format.** -/
inductive SourceFormat where
  /-- The content is the token. -/
  | text
  /-- The content is an object that has the token in this field. -/
  | json (field : String)
  deriving DecidableEq

/-- The format of an object; without an object, and without a type, it is text. -/
def SourceFormat.ofDocument : Option FormatDocument → Except ConfigError SourceFormat
  | none => .ok .text
  | some d =>
    match d.type with
    | none => .ok .text
    | some "text" => .ok .text
    | some "json" =>
      match d.fieldName with
      | some name =>
        if name = "" then .error (.missing "credential_source.format.subject_token_field_name")
        else .ok (.json name)
      | none => .error (.missing "credential_source.format.subject_token_field_name")
    | some other => .error (.unknownFormat other)

/-- The words that open the message of an unusable content. -/
def unusable (origin : String) : String := "unable to parse the subject token from " ++ origin ++ ": "

/-- **The subject token of a content** that came from `origin`. -/
def SourceFormat.extract (f : SourceFormat) (content origin : String) : Except AuthError String :=
  match f with
  | .text =>
    if content = "" then .error (.unavailable (unusable origin ++ "the contents are empty"))
    else .ok content
  | .json name =>
    match Json.parse (Utf8.encode content) with
    | .error e => .error (.unavailableFrom false (unusable origin ++ e.message) (.json e))
    | .ok v =>
      match v.field? name with
      | some (.string token) =>
        if token = "" then .error (.missingField name v.render) else .ok token
      | _ => .error (.missingField name v.render)

end WorkloadIdentity
