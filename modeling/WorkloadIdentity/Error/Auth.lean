/-
  WorkloadIdentity.Error.Auth ──── **WHY THERE IS NO TOKEN, OR NO RESPONSE.**

  An error says what kind of step failed, whether the same step may succeed later, and, if a
  server answered, with what.  **RULE**: an answer is retryable by its status alone; a failure
  without an answer is always retryable.

  ✓ `AuthError.message`, `AuthError.cause?`, `AuthError.status?` — what an error tells
  ✓ `AuthError.ofClient`, `AuthError.ofResponse`, `AuthError.ofAnswer` — how failures become errors
-/
import WorkloadIdentity.Error.Payload
import WorkloadIdentity.FileSystem
import WorkloadIdentity.Http.Exchange
import WorkloadIdentity.Time.Rfc3339

namespace WorkloadIdentity

/-! ## §1. Causes. -/

/-- What lies below an error. -/
inductive Cause where
  /-- The client failed. -/
  | client (e : ClientError)
  /-- A text is not the JSON that was due. -/
  | json (e : Json.Error)
  /-- A file cannot be had. -/
  | file (e : FileError)
  /-- A text is no timestamp. -/
  | timestamp (e : TimestampError)
  /-- A text is no header value. -/
  | headerValue
  /-- An error that the application reported. -/
  | reported (message : String)

/-- The wording of a text that is no header value. -/
def headerValueMessage : String := "failed to parse header value"

/-- The wording of a cause. -/
def Cause.message : Cause → String
  | .client e => e.message
  | .json e => e.message
  | .file e => e.message
  | .timestamp e => e.message
  | .headerValue => headerValueMessage
  | .reported message => message

/-! ## §2. Errors. -/

/-- What kind of step failed. -/
inductive AuthError.Kind where
  /-- The subject token cannot be had from its source. -/
  | sourceUnavailable (message : String) (cause : Option Cause)
  /-- The JSON of the source has no text of that name. -/
  | fieldNotFound (field body : String)
  /-- A token endpoint answered with its flat error. -/
  | oauth (e : OAuthError)
  /-- An API answered with its error object. -/
  | api (e : ApiError)
  /-- The exchange failed, or was answered in a way nobody knows. -/
  | transport (message : String) (status : Option Status) (cause : Option Cause)
  /-- Anything else. -/
  | other (message : String) (cause : Option Cause)

/-- **An error.** -/
structure AuthError where
  /-- Whether the same step may succeed later. -/
  transient : Bool
  /-- What failed. -/
  kind : AuthError.Kind
  /-- The answer of the server, if there was one. -/
  response : Option RawResponse

namespace AuthError

/-- The wording of an error. -/
def message (e : AuthError) : String :=
  match e.kind with
  | .sourceUnavailable text _ => text
  | .fieldNotFound field body =>
    "failed to read subject token field `" ++ field ++ "` as a non-empty string, body=<" ++ body ++ ">"
  | .oauth e => e.message
  | .api e => e.message
  | .transport text _ _ => text
  | .other text _ => text

/-- What lies below an error. -/
def cause? (e : AuthError) : Option Cause :=
  match e.kind with
  | .sourceUnavailable _ cause => cause
  | .transport _ _ cause => cause
  | .other _ cause => cause
  | _ => none

/-- The status that goes with an error. -/
def status? (e : AuthError) : Option Status :=
  match e.kind with
  | .transport _ (some status) _ => some status
  | _ => e.response.map (·.status)

/-- The digits of the status that goes with an error. -/
def statusCode? (e : AuthError) : Option String := e.status?.map Status.digits

/-! ## §3. Making errors. -/

/-- An error without an answer. -/
def new (transient : Bool) (kind : Kind) : AuthError := ⟨transient, kind, none⟩

/-- An error from a message. -/
def ofMessage (transient : Bool) (text : String) : AuthError := new transient (.other text none)

/-- An error that says what its cause says. -/
def ofCause (transient : Bool) (cause : Cause) : AuthError :=
  new transient (.other cause.message (some cause))

/-- The source cannot be used as it is. -/
def unavailable (text : String) : AuthError := new false (.sourceUnavailable text none)

/-- The source cannot be had, because of something below. -/
def unavailableFrom (transient : Bool) (text : String) (cause : Cause) : AuthError :=
  new transient (.sourceUnavailable text (some cause))

/-- The JSON of the source has no text of that name. -/
def missingField (field body : String) : AuthError := new false (.fieldNotFound field body)

/-- The exchange went wrong. -/
def transport (transient : Bool) (text : String) (status : Option Status) : AuthError :=
  new transient (.transport text status none)

/-- The exchange went wrong, because of something below. -/
def transportFrom (transient : Bool) (text : String) (cause : Cause) : AuthError :=
  new transient (.transport text none (some cause))

/-! ## §4. Failures of an exchange. -/

/-- The client failed while `doing` something: no status, always retryable. -/
def ofClient (doing : String) (e : ClientError) : AuthError :=
  transportFrom true (doing ++ ": " ++ e.message) (.client e)

/-- The words that open the message of an unsuccessful answer. -/
def failedWith (doing : String) (status : Status) : String :=
  doing ++ ", failed with status " ++ status.describe

/-- An unsuccessful answer whose body nobody looks into. -/
def ofUnknownBody (doing : String) (r : RawResponse) : AuthError :=
  ⟨r.status.isRetryable,
    .transport (failedWith doing r.status ++ ", body=<" ++ r.text ++ ">") (some r.status) none,
    some r⟩

/-- **An unsuccessful answer, by its body**: the flat error, the error object, or neither. -/
def ofAnswer (doing : String) (r : RawResponse) : AuthError :=
  match OAuthError.parse r.body with
  | .ok e => ⟨r.status.isRetryable, .oauth e, some r⟩
  | .error _ =>
    match ApiError.parse r.body with
    | .ok e => ⟨r.status.isRetryable, .api e, some r⟩
    | .error _ => ofUnknownBody doing r

/-- An unsuccessful response whose body has yet to be read. -/
def ofResponse (doing : String) (r : Response) : AuthError :=
  match r.read with
  | .ok raw => ofAnswer doing raw
  | .error e =>
    new r.raw.status.isRetryable
      (.transport (failedWith doing r.raw.status ++ ": " ++ e.message) (some r.raw.status)
        (some (.client e)))

/-- A successful answer whose body is not what was due. -/
def ofBody (doing : String) (e : Json.Error) : AuthError :=
  transportFrom false (doing ++ ", cannot parse response: " ++ e.message) (.json e)

end AuthError

end WorkloadIdentity
