/-
  WorkloadIdentity.Token.BearerHeaders ──── **THE HEADERS THAT CARRY A TOKEN.**

  ✓ `bearerHeaders` — the token, and the project that pays, if one is configured
-/
import WorkloadIdentity.Error.Auth
import WorkloadIdentity.Token.Access

namespace WorkloadIdentity

/-- The header that carries a token. -/
def authorizationName : String := "authorization"

/-- The header that names the project that pays. -/
def quotaName : String := "x-goog-user-project"

/-- The error of a text that is no header value. -/
def badHeaderValue : AuthError := .ofCause false .headerValue

/-- The value that carries a token; it is not to be shown. -/
def bearerValue (token : String) : Except AuthError HeaderValue :=
  match HeaderValue.ofString? (bearer ++ " " ++ token) with
  | some v => .ok v.hidden
  | none => .error badHeaderValue

/-- **The headers that carry a token**: refused if the token or the project is no header value. -/
def bearerHeaders (token : String) (quota : Option String) : Except AuthError Headers := do
  let headers := Headers.empty.insert authorizationName (← bearerValue token)
  match quota with
  | none => .ok headers
  | some project =>
    match HeaderValue.ofString? project with
    | some v => .ok (headers.insert quotaName v)
    | none => .error badHeaderValue

end WorkloadIdentity
