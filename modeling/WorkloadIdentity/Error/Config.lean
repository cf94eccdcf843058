/-
  WorkloadIdentity.Error.Config ──── **WHY CREDENTIALS CANNOT BE SET UP.**

  Each cause belongs to one of five categories; the category gives the opening words.

  ✓ `ConfigError.message` — the wording
-/
import WorkloadIdentity.Error.Auth

namespace WorkloadIdentity

/-- Why a configuration is refused. -/
inductive ConfigError where
  /-- Its file cannot be read. -/
  | unreadable (e : FileError)
  /-- It is not JSON, or a field has a value of the wrong kind. -/
  | malformed (e : Json.Error)
  /-- A field should hold an absolute URL. -/
  | badUrl (field value : String) (e : UrlError)
  /-- It is for credentials of another type, shown as it was found. -/
  | otherType (shown : String)
  /-- A required field is not there. -/
  | missing (field : String)
  /-- It names both a file and a URL as the source, or neither. -/
  | sourceCount (both : Bool)
  /-- The format of the source is of no known type. -/
  | unknownFormat (type : String)
  /-- A header of the source has no proper name. -/
  | headerName
  /-- A header of the source has no proper value. -/
  | headerValue

/-- The categories of causes. -/
inductive ConfigError.Category where
  /-- Finding and opening the file. -/
  | loading
  /-- The form of the document. -/
  | parsing
  /-- The type of credentials. -/
  | unknownType
  /-- Required fields. -/
  | missingField
  /-- The source of subject tokens. -/
  | invalidSource
  deriving DecidableEq

namespace ConfigError

/-- The category of a cause. -/
def category : ConfigError → Category
  | .unreadable _ => .loading
  | .malformed _ => .parsing
  | .badUrl _ _ _ => .parsing
  | .otherType _ => .unknownType
  | .missing _ => .missingField
  | .sourceCount _ => .invalidSource
  | .unknownFormat _ => .invalidSource
  | .headerName => .invalidSource
  | .headerValue => .invalidSource

/-- The opening words of a category. -/
def Category.opening : Category → String
  | .loading => "could not find or open the credentials file "
  | .parsing => "cannot parse the credentials file "
  | .unknownType => "unknown or invalid credentials type "
  | .missingField => "missing required field: "
  | .invalidSource => "invalid credential source "

/-- What is wrong in particular. -/
def detail : ConfigError → String
  | .unreadable e => e.message
  | .malformed e => e.message
  | .badUrl field value e =>
    "invalid `" ++ field ++ "` value " ++ Text.quote value ++ ": " ++ e.message
  | .otherType shown => "Expected \"external_account\" type but received " ++ shown
  | .missing field => field
  | .sourceCount both =>
    "credential_source must contain exactly one of `file` or `url`, found " ++
      (if both then "both" else "neither")
  | .unknownFormat type =>
    "invalid credential_source format type `" ++ type ++ "`, expected `text` or `json`"
  | .headerName => "invalid HTTP header name"
  | .headerValue => headerValueMessage

/-- **The wording of a cause.** -/
def message (e : ConfigError) : String := e.category.opening ++ e.detail

/-- The wording of what lies below; a missing field has nothing below it. -/
def source? (e : ConfigError) : Option String :=
  match e with
  | .missing _ => none
  | e => some e.detail

end ConfigError

end WorkloadIdentity
