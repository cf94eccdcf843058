/-
  WorkloadIdentity.Token.Access ──── **ACCESS TOKENS.**

  **RULE**: a token without an expiry is always usable; any other is usable up to, and not at, the
  instant that lies a threshold before its expiry.

  ✓ `AccessToken.isUsable` — the rule
  ✓ `AccessToken.describe`, `TokenNotice.describe` — descriptions that keep the token to themselves
-/
import WorkloadIdentity.Http.Message
import WorkloadIdentity.Time.Clock
import WorkloadIdentity.Text.Quoted

namespace WorkloadIdentity

/-! ## §1. Tokens. -/

/-- An access token. -/
structure AccessToken where
  /-- The token itself. -/
  token : String
  /-- The instant at which it expires. -/
  expiry : Option Int
  /-- The answer that brought it, if one did. -/
  response : Option RawResponse
  deriving DecidableEq

/-- A token that no answer brought. -/
def AccessToken.ofParts (token : String) (expiry : Option Int) : AccessToken := ⟨token, expiry, none⟩

/-- **Whether a token can be used at an instant.** -/
def AccessToken.isUsable (t : AccessToken) (now threshold : Int) : Bool :=
  match t.expiry with
  | none => true
  | some expiry => now < Millis.sub expiry threshold

/-! ## §2. Notices. -/

/-- The kind of every token. -/
def bearer : String := "Bearer"

/-- What subscribers are told about a new token. -/
structure TokenNotice where
  /-- The token itself. -/
  token : String
  /-- The instant at which it expires. -/
  expiry : Option Int
  /-- Its kind. -/
  tokenType : String
  /-- A token to get others with. -/
  refreshToken : Option String
  deriving DecidableEq

/-- The notice of a token. -/
def AccessToken.notice (t : AccessToken) : TokenNotice := ⟨t.token, t.expiry, bearer, none⟩

/-! ## §3. Descriptions. -/

/-- What stands for a secret. -/
def censored : String := "\"[censored]\""

/-- An instant that may be missing. -/
def describeExpiry : Option Int → String
  | none => "None"
  | some n => "Some(" ++ String.ofList (Text.signedDecimal n) ++ ")"

/-- A named list of described fields. -/
def describeFields (name : String) (fields : List (String × String)) : String :=
  name ++ " \x7b " ++ ", ".intercalate (fields.map fun f => f.1 ++ ": " ++ f.2) ++ " \x7d"

/-- The description of a token. -/
def AccessToken.describe (t : AccessToken) : String :=
  describeFields "CachedAccessToken"
    [("access_token", censored), ("expiry_millis", describeExpiry t.expiry),
      ("response", match t.response with
        | none => "None"
        | some r => "Some(" ++ r.status.digits ++ ")")]

/-- The description of a notice. -/
def TokenNotice.describe (n : TokenNotice) : String :=
  describeFields "TokenRefresh"
    [("access_token", censored), ("expiry_millis", describeExpiry n.expiry),
      ("token_type", Text.quote n.tokenType),
      ("refresh_token", match n.refreshToken with
        | none => "None"
        | some _ => "Some(" ++ censored ++ ")")]

end WorkloadIdentity
