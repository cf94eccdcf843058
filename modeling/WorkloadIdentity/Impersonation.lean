/-
  WorkloadIdentity.Impersonation ──── **TRADING AN ACCESS TOKEN FOR THAT OF A SERVICE ACCOUNT.**

  ✓ `Impersonation.generate` — the request and the token in its answer
-/
import WorkloadIdentity.Token.BearerHeaders
import WorkloadIdentity.World

namespace WorkloadIdentity

/-! ## §1. What is answered. -/

/-- The answer: a token, and the instant at which it expires as a timestamp. -/
structure ServiceToken where
  /-- The token. -/
  accessToken : String
  /-- When it expires. -/
  expireTime : String
  deriving DecidableEq

/-- What has been read of one. -/
structure ServiceToken.Draft where
  /-- The token. -/
  accessToken : Option String
  /-- When it expires. -/
  expireTime : Option String

/-- How it is read. -/
def ServiceToken.record : Json.TextRecord ServiceToken.Draft ServiceToken where
  title := "struct GenerateAccessTokenResponse"
  blank := ⟨none, none⟩
  fields :=
    [.of "accessToken" Json.readString (·.accessToken)
        fun d s => { d with accessToken := some s },
      .of "expireTime" Json.readString (·.expireTime) fun d s => { d with expireTime := some s }]
  finish d :=
    match d.accessToken, d.expireTime with
    | none, _ => .error (.missing "accessToken")
    | some _, none => .error (.missing "expireTime")
    | some token, some time => .ok ⟨token, time⟩

/-! ## §2. The request. -/

namespace Impersonation

/-- The content type of JSON. -/
def jsonType : HeaderValue := ⟨Utf8.encode "application/json", false⟩

/-- The body: the scopes, in order. -/
def body (scopes : List String) : Json := .object [("scope", .array (scopes.map .string))]

/-- The headers. -/
def headers (token : String) : Except AuthError Headers := do
  .ok ((← bearerHeaders token none).insertNew "content-type" jsonType)

/-- The token of an answer. -/
def token (answer : ServiceToken) (raw : RawResponse) : Except AuthError AccessToken :=
  match Timestamp.parse answer.expireTime with
  | .error e => .error (.ofCause false (.timestamp e))
  | .ok t => .ok ⟨answer.accessToken, some t.unixMillis, some raw⟩

/-- **A token of the service account behind a URL.** -/
def generate (url accessToken : String) (scopes : List String) : Act AccessToken := do
  let headers ← Act.lift (headers accessToken)
  let raw ← Act.call .impersonation "POST" url headers (.bytes (Utf8.encode (body scopes).render))
  let answer ← Act.lift (Act.decode ServiceToken.record Errand.impersonation.doing raw)
  Act.lift (token answer raw)

end Impersonation

end WorkloadIdentity
