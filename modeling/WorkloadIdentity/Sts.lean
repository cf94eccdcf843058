/-
  WorkloadIdentity.Sts ──── **TRADING A SUBJECT TOKEN FOR AN ACCESS TOKEN.**

  The token endpoint takes a form and answers with a JSON object.  **RULE**: the caller's headers
  never replace the content type or the client authentication.

  ✓ `ExchangeForm.pairs`   — the form, in order
  ✓ `TokenAnswer.decode`   — the answer
  ✓ `Sts.exchange`         — both together
-/
import WorkloadIdentity.Http.Form
import WorkloadIdentity.Text.Base64
import WorkloadIdentity.Token.BearerHeaders
import WorkloadIdentity.World

namespace WorkloadIdentity

/-! ## §1. Who asks. -/

/-- How the client makes itself known. -/
inductive ClientAuthentication where
  /-- It does not. -/
  | anonymous
  /-- In a header. -/
  | basic (id secret : String)
  /-- In the form. -/
  | form (id secret : String)
  deriving DecidableEq

/-- The description of an authentication, which keeps the secret to itself. -/
def ClientAuthentication.describe : ClientAuthentication → String
  | .anonymous => "None"
  | .basic id _ =>
    describeFields "Basic" [("client_id", Text.quote id), ("client_secret", censored)]
  | .form id _ =>
    describeFields "RequestBody" [("client_id", Text.quote id), ("client_secret", censored)]

/-- The value of the header. -/
def basicValue (id secret : String) : Except AuthError HeaderValue :=
  let letters := String.ofList (Base64.encode (Utf8.encode (id ++ ":" ++ secret)))
  match HeaderValue.ofString? ("Basic " ++ letters) with
  | some v => .ok v.hidden
  | none => .error badHeaderValue

/-- The headers with what the authentication adds. -/
def ClientAuthentication.headers (a : ClientAuthentication) (h : Headers) :
    Except AuthError Headers :=
  match a with
  | .basic id secret => do .ok (h.insert authorizationName (← basicValue id secret))
  | _ => .ok h

/-- What the authentication adds to the form. -/
def ClientAuthentication.pairs : ClientAuthentication → List (String × String)
  | .form id secret => [("client_id", id), ("client_secret", secret)]
  | _ => []

/-! ## §2. What is asked. -/

/-- Somebody who acts for the subject. -/
structure ActingParty where
  /-- Its token. -/
  token : String
  /-- The kind of its token. -/
  tokenType : String
  deriving DecidableEq

/-- The contents of the form. -/
structure ExchangeForm where
  /-- For whom the token is. -/
  audience : String
  /-- What it shall permit. -/
  scope : List String
  /-- The subject token. -/
  subjectToken : String
  /-- The kind of the subject token. -/
  subjectTokenType : String
  /-- Where it shall be used. -/
  resource : Option String
  /-- Who acts for the subject. -/
  actingParty : Option ActingParty
  /-- Further options, as JSON. -/
  options : Option Json

/-- The grant that is asked for. -/
def grantType : String := "urn:ietf:params:oauth:grant-type:token-exchange"

/-- The kind of token that is asked for. -/
def accessTokenType : String := "urn:ietf:params:oauth:token-type:access_token"

/-- A pair that is left out if it has no value. -/
def optionalPair (name : String) : Option String → List (String × String)
  | none => []
  | some value => [(name, value)]

/-- **The form, in order.**  An empty scope is left out. -/
def ExchangeForm.pairs (f : ExchangeForm) : List (String × String) :=
  ("grant_type", grantType) :: optionalPair "resource" f.resource ++
    ("audience", f.audience) ::
    optionalPair "scope" (if f.scope = [] then none else some (" ".intercalate f.scope)) ++
    [("requested_token_type", accessTokenType), ("subject_token", f.subjectToken),
      ("subject_token_type", f.subjectTokenType)] ++
    optionalPair "actor_token" (f.actingParty.map (·.token)) ++
    optionalPair "actor_token_type" (f.actingParty.map (·.tokenType)) ++
    optionalPair "options" (f.options.map Json.render)

/-! ## §3. What is answered. -/

/-- The answer of a token endpoint. -/
structure TokenAnswer where
  /-- The token. -/
  accessToken : String
  /-- The kind of token by its name; empty if there is none. -/
  issuedTokenType : String
  /-- How the token is used; empty if there is nothing about it. -/
  tokenType : String
  /-- For how many seconds it is valid. -/
  expiresIn : Option Nat
  /-- A token to get others with. -/
  refreshToken : Option String
  /-- What it permits. -/
  scope : Option String
  /-- The answer as it came. -/
  response : Option RawResponse
  deriving DecidableEq

/-- What has been read of one. -/
structure TokenAnswer.Draft where
  /-- The token. -/
  accessToken : Option String
  /-- The kind of token by its name. -/
  issuedTokenType : Option String
  /-- How the token is used. -/
  tokenType : Option String
  /-- For how many seconds it is valid. -/
  expiresIn : Option (Option Nat)
  /-- A token to get others with. -/
  refreshToken : Option (Option String)
  /-- What it permits. -/
  scope : Option (Option String)

/-- The greatest number of seconds. -/
def expiresInBound : Nat := UInt64.size - 1

/-- How it is read. -/
def TokenAnswer.record : Json.TextRecord TokenAnswer.Draft TokenAnswer where
  title := "struct TokenResponse"
  blank := ⟨none, none, none, none, none, none⟩
  fields :=
    [.of "access_token" Json.readString (·.accessToken)
        fun d s => { d with accessToken := some s },
      (.of "issued_token_type" Json.readString (·.issuedTokenType)
        fun d s => { d with issuedTokenType := some s } : Json.TextField TokenAnswer.Draft).orEnd,
      (.of "token_type" Json.readString (·.tokenType)
        fun d s => { d with tokenType := some s } : Json.TextField TokenAnswer.Draft).orEnd,
      .of "expires_in" (Json.readOptional (Json.readNatural expiresInBound "u64")) (·.expiresIn)
        fun d n => { d with expiresIn := some n },
      .of "refresh_token" (Json.readOptional Json.readString) (·.refreshToken)
        fun d s => { d with refreshToken := some s },
      .of "scope" (Json.readOptional Json.readString) (·.scope)
        fun d s => { d with scope := some s }]
  finish d :=
    match d.accessToken with
    | none => .error (.missing "access_token")
    | some token =>
      .ok ⟨token, d.issuedTokenType.getD "", d.tokenType.getD "", d.expiresIn.join,
        d.refreshToken.join, d.scope.join, none⟩

/-- **The answer in a body.** -/
def TokenAnswer.decode (doing : String) (raw : RawResponse) : Except AuthError TokenAnswer :=
  Act.decode TokenAnswer.record doing raw

/-! ## §4. The exchange. -/

/-- A token endpoint, and how to make oneself known to it. -/
structure Sts where
  /-- Where it is. -/
  url : String
  /-- How the client makes itself known. -/
  authentication : ClientAuthentication

namespace Sts

/-- The content type of a form. -/
def formType : HeaderValue := ⟨Utf8.encode "application/x-www-form-urlencoded", false⟩

/-- The headers of the request. -/
def headers (s : Sts) (caller : Headers) : Except AuthError Headers :=
  s.authentication.headers (caller.insert "content-type" formType)

/-- The body of the request. -/
def body (s : Sts) (f : ExchangeForm) : List UInt8 :=
  Form.encode (f.pairs ++ s.authentication.pairs)

/-- **The exchange.** -/
def exchange (s : Sts) (f : ExchangeForm) (caller : Headers) : Act TokenAnswer := do
  let headers ← Act.lift (s.headers caller)
  let raw ← Act.call .exchange "POST" s.url headers (.bytes (s.body f))
  let answer ← Act.lift (TokenAnswer.decode Errand.exchange.doing raw)
  return { answer with response := some raw }

end Sts

end WorkloadIdentity
