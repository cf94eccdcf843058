/-
  WorkloadIdentity.Error.Payload ──── **ERROR BODIES THAT SERVERS SEND.**

  Two shapes are known: the flat error of a token endpoint, and the error object of an API.

  ✓ `OAuthError.parse`, `ApiError.parse` — from a body
  ✓ `OAuthError.message`, `ApiError.message`
-/
import WorkloadIdentity.Json.Record

namespace WorkloadIdentity

/-! ## §1. The flat error. -/

/-- The error of a token endpoint. -/
structure OAuthError where
  /-- The code. -/
  error : String
  /-- An explanation. -/
  description : Option String
  /-- A page about it. -/
  uri : Option String
  deriving DecidableEq

/-- What has been read of one. -/
structure OAuthError.Draft where
  /-- The code. -/
  error : Option String
  /-- An explanation. -/
  description : Option (Option String)
  /-- A page about it. -/
  uri : Option (Option String)

/-- How it is read. -/
def OAuthError.record : Json.TextRecord OAuthError.Draft OAuthError where
  title := "struct OAuthError"
  blank := ⟨none, none, none⟩
  fields :=
    [.of "error" Json.readString (·.error) fun d s => { d with error := some s },
      .of "error_description" (Json.readOptional Json.readString) (·.description)
        fun d s => { d with description := some s },
      .of "error_uri" (Json.readOptional Json.readString) (·.uri)
        fun d s => { d with uri := some s }]
  finish d :=
    match d.error with
    | none => .error (.missing "error")
    | some error => .ok ⟨error, d.description.join, d.uri.join⟩

/-- The flat error that is the whole of a body. -/
def OAuthError.parse (body : List UInt8) : Except Json.Error OAuthError :=
  OAuthError.record.parse body

/-- Its wording. -/
def OAuthError.message (e : OAuthError) : String :=
  "Error code " ++ e.error ++
    (match e.description with
    | none => ""
    | some text => ": " ++ text) ++
    (match e.uri with
    | none => ""
    | some uri => " - " ++ uri)

/-! ## §2. The error object. -/

/-- The error of an API. -/
structure ApiError where
  /-- The status code, a word of sixteen bits. -/
  code : Nat
  /-- An explanation. -/
  text : String
  /-- The name of the status; empty if there is none. -/
  status : String
  deriving DecidableEq

/-- What has been read of one. -/
structure ApiError.Draft where
  /-- The status code. -/
  code : Option Nat
  /-- An explanation. -/
  text : Option String
  /-- The name of the status. -/
  status : Option String

/-- How it is read. -/
def ApiError.record : Json.TextRecord ApiError.Draft ApiError where
  title := "struct ApiError"
  blank := ⟨none, none, none⟩
  fields :=
    [.of "code" (Json.readNatural 65535 "u16") (·.code) fun d n => { d with code := some n },
      .of "message" Json.readString (·.text) fun d s => { d with text := some s },
      (.of "status" Json.readString (·.status) fun d s => { d with status := some s } :
        Json.TextField ApiError.Draft).orEnd]
  finish d :=
    match d.code, d.text with
    | none, _ => .error (.missing "code")
    | some _, none => .error (.missing "message")
    | some code, some text => .ok ⟨code, text, d.status.getD ""⟩

/-- How the object around it is read. -/
def ApiError.envelope : Json.TextRecord (Option ApiError) ApiError where
  title := "struct ApiErrorResponse"
  blank := none
  fields := [.of "error" ApiError.record.read id fun _ e => some e]
  finish d :=
    match d with
    | none => .error (.missing "error")
    | some e => .ok e

/-- The error of an object that is the whole of a body. -/
def ApiError.parse (body : List UInt8) : Except Json.Error ApiError := ApiError.envelope.parse body

/-- Its wording. -/
def ApiError.message (e : ApiError) : String :=
  e.text ++ " (code=" ++ String.ofList (Text.decimal e.code) ++
    (if e.status = "" then "" else ", status=" ++ e.status) ++ ")"

end WorkloadIdentity
