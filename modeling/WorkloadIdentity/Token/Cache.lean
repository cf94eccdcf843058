/-
  WorkloadIdentity.Token.Cache ──── **ONE TOKEN, KEPT UNTIL IT IS ABOUT TO EXPIRE.**

  The cache holds at most one token.  **RULE**: a caller who wants a current token gets the cached
  one while it is usable; otherwise, and for a caller who wants a fresh one, the token is fetched,
  and only a success is stored and announced.

  ✓ `TokenCache.usable?`, `TokenCache.install`, `TokenCache.renew` — the three moves on the content
  ✓ `TokenCache.obtain` — one caller alone, from demand to answer
-/
import WorkloadIdentity.Error.Auth
import WorkloadIdentity.Log
import WorkloadIdentity.Token.Access
import WorkloadIdentity.Token.Feed

namespace WorkloadIdentity

/-! ## §1. The content. -/

/-- A cache for one token. -/
structure TokenCache where
  /-- How long before its expiry a token is no longer used, in milliseconds. -/
  threshold : Int
  /-- The token. -/
  stored : Option AccessToken
  /-- Where new tokens are announced. -/
  feed : Feed TokenNotice

/-- What a fetch for a token answers. -/
abbrev Outcome := Except AuthError AccessToken

namespace TokenCache

/-- A cache that holds nothing. -/
def empty (threshold : Span) : TokenCache := ⟨threshold.toMillis, none, Feed.empty⟩

/-- The token, if it is usable at an instant. -/
def usable? (c : TokenCache) (now : Int) : Option AccessToken :=
  c.stored.filter (·.isUsable now c.threshold)

/-- Put a token in place without announcing it. -/
def install (c : TokenCache) (t : AccessToken) : TokenCache := { c with stored := some t }

/-- Put a fetched token in place and announce it. -/
def renew (c : TokenCache) (t : AccessToken) : TokenCache :=
  { c with stored := some t, feed := c.feed.publish t.notice }

/-- What the end of a fetch does to the cache: a failure does nothing. -/
def settle (c : TokenCache) : Outcome → TokenCache
  | .ok t => c.renew t
  | .error _ => c

/-! ## §2. What is logged. -/

/-- The cached token is handed out. -/
def hitRecord : LogRecord := .debug "using cached access token" []

/-- A caller who waited finds a token that somebody else fetched. -/
def servedRecord : LogRecord := .debug "using access token refreshed by a concurrent caller" []

/-- A fetch begins. -/
def fetchRecord : LogRecord := .debug "refreshing access token" []

/-- A fetch ends. -/
def settleRecord : Outcome → LogRecord
  | .ok t => .debug "access token refreshed" [("expiry_millis", describeExpiry t.expiry)]
  | .error e => ⟨.warn, "access token refresh failed: " ++ e.message, []⟩

end TokenCache

/-! ## §3. Where tokens come from. -/

/-- A place from which tokens are fetched: its clock, its log, and the fetch, which may change
it. -/
structure TokenHost (σ : Type) where
  /-- The reading of the clock. -/
  now : σ → Int
  /-- Add a record to the log. -/
  note : LogRecord → σ → σ
  /-- Fetch a token. -/
  fetch : σ → Outcome × σ

/-- What a caller wants. -/
inductive Demand where
  /-- A token that is usable. -/
  | current
  /-- A token that has just been fetched. -/
  | fresh
  deriving DecidableEq

/-! ## §4. One caller alone. -/

namespace TokenCache

/-- Fetch a token and keep it if there is one. -/
def refresh {σ : Type} (h : TokenHost σ) (c : TokenCache) (w : σ) : Outcome × TokenCache × σ :=
  let (outcome, w) := h.fetch (h.note fetchRecord w)
  (outcome, c.settle outcome, h.note (settleRecord outcome) w)

/-- **What a caller gets who is alone with the cache.** -/
def obtain {σ : Type} (h : TokenHost σ) (d : Demand) (c : TokenCache) (w : σ) :
    Outcome × TokenCache × σ :=
  match d, c.usable? (h.now w) with
  | .current, some t => (.ok t, c, h.note hitRecord w)
  | _, _ => refresh h c w

end TokenCache

end WorkloadIdentity
