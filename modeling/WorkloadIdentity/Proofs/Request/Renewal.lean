/-
  WorkloadIdentity.Proofs.Request.Renewal ──── **WHAT HAPPENS BETWEEN TWO SENDINGS.**

  After a refusal a fresh token is fetched, but it is not handed to the second attempt: that looks
  into the cache like any other caller.  A token that is not usable as soon as it is there, because
  its life is not longer than the threshold, is fetched a second time.

  Main results:
    * `arrivals_of_retry` — all that arrives in a request that is refused and has a fresh token
    * `retry_renews_once_iff` — one exchange and its token, exactly if the token is usable at once
-/
import WorkloadIdentity.Proofs.Request.Retry

namespace WorkloadIdentity

open Credentials (addHeaders successful)

/-! ## §1. Between the first and the second of the application's requests. -/

/-- What arrives after the first of the application's requests and before the second. -/
def between (arrivals : List Arrival) : List Arrival :=
  ((arrivals.dropWhile fun a => a.errand ≠ .target).drop 1).takeWhile fun a => a.errand ≠ .target

/-- **Renewed once**: the application's request arrives twice, one exchange arrives in between, and
the second time the request carries the token, unless the caller has set its header. -/
def RenewedOnce (r : Request) (t : AccessToken) (arrivals : List Arrival) : Prop :=
  ∃ a b v, asked arrivals = [a, b] ∧ ((between arrivals).map (·.errand)).count .exchange = 1 ∧
    bearerValue t.token = .ok v ∧
    b.headers.values authorizationName =
      if r.headers.contains authorizationName then r.headers.values authorizationName else [v]

theorem others_of_asked {arrivals : List Arrival} (h : asked arrivals = []) :
    ∀ a ∈ arrivals, (decide (a.errand ≠ .target)) = true := by
  unfold asked at h
  rw [List.map_eq_nil_iff, List.filter_eq_nil_iff] at h
  intro a ha
  simpa using h a ha

theorem between_eq {before middle : List Arrival} {a : Request} {rest : List Request}
    (hbefore : asked before = []) (hmiddle : asked middle = []) :
    between (before ++ ⟨.target, a⟩ :: (middle ++ rest.map (⟨.target, ·⟩))) = middle := by
  unfold between
  rw [List.dropWhile_append_of_pos (others_of_asked hbefore), List.dropWhile_cons_of_neg (by simp),
    List.drop_one, List.tail_cons, List.takeWhile_append_of_pos (others_of_asked hmiddle)]
  cases rest <;> simp

/-! ## §2. The cache after a fetch. -/

theorem TokenCache.obtain_threshold {σ : Type} (h : TokenHost σ) (d : Demand) (c : TokenCache)
    (w : σ) : (obtain h d c w).2.1.threshold = c.threshold := by
  have refreshed : (refresh h c w).2.1.threshold = c.threshold := by
    unfold refresh
    rcases h.fetch (h.note fetchRecord w) with ⟨outcome, place⟩
    cases outcome <;> rfl
  unfold obtain
  split
  · rfl
  · exact refreshed

theorem obtain_threshold {c : Credentials} {d : Demand} {s next : Session} {outcome : Outcome}
    (ran : (c.obtain d).run s = (outcome, next)) :
    next.cache.threshold = s.cache.threshold := by
  rw [c.run_obtain] at ran
  cases ran
  exact TokenCache.obtain_threshold _ _ _ _

/-- A fresh token is what the cache holds from then on. -/
theorem stored_of_fresh {c : Credentials} {s next : Session} {t : AccessToken}
    (token : (c.obtain .fresh).run s = (.ok t, next)) : next.cache.stored = some t := by
  rw [c.run_obtain_fetch (by simp)] at token
  rcases fetched : c.fetch.run (s.world.note TokenCache.fetchRecord) with ⟨outcome, world⟩
  rw [fetched] at token
  cases token
  rfl

theorem Attempt.threshold {c : Credentials} {r : Request} {s next : Session} {deeds : List Deed}
    {outcome : Except AuthError Response} (h : Attempt c r s deeds outcome next) :
    next.cache.threshold = s.cache.threshold := by
  cases h with
  | unready token | unsigned token => exact obtain_threshold token
  | sent token headers ran =>
    rw [run_outside] at ran
    obtain ⟨-, rfl⟩ := Prod.mk.inj ran
    exact (obtain_threshold token :)

/-! ## §3. A refused request. -/

section Refused

variable {c : Credentials} {r : Request} {s mid ready : Session} {response : Response}
  {t : AccessToken}

/-- **All that arrives in a request that is refused and has a fresh token**: what the first attempt
took, the request, the fetch of the fresh token, what the second attempt took, and the request
again if there were headers for it. -/
theorem arrivals_of_retry (first : (c.sendWithToken r).run s = (.ok response, mid))
    (again : c.Retries r response)
    (token : (c.obtain .fresh).run (mid.noted response.raw.status) = (.ok t, ready)) :
    ∃ before a renewal fetched more outcome next,
      s.arrivals ((c.request r).run s).2
        = before ++ ⟨.target, a⟩ :: ((renewal ++ fetched) ++ (sends more).map (⟨.target, ·⟩)) ∧
      asked before = [] ∧ asked (renewal ++ fetched) = [] ∧ renewal.map (·.errand) = c.plan ∧
      Attempt c r ready more outcome next ∧ ready.world.clock = s.world.clock ∧
      (∀ u, ready.cache.usable? ready.world.clock.now = some u → fetched = []) ∧
      (ready.cache.usable? ready.world.clock.now = none → sends more ≠ [] →
        fetched.map (·.errand) = c.plan) := by
  obtain ⟨deeds, attempt⟩ := attempt_of_run first
  obtain ⟨before, received, beginning, -⟩ := attempt.received
  obtain ⟨_, h, -, one⟩ := attempt.sends_of_ok
  rcases second : (c.sendWithToken r).run ready with ⟨outcome, next⟩
  obtain ⟨more, attempt'⟩ := attempt_of_run second
  obtain ⟨renewal, renewed, -, -, whole⟩ := c.obtain_received .fresh (mid.noted response.raw.status)
  obtain ⟨fetched, received', beginning', hit, stale⟩ := attempt'.received
  rw [token] at renewed whole
  have planned : renewal.map (·.errand) = c.plan := whole (by simp) t rfl
  -- whoever heard the first attempt hears the second
  have ears : ready.world.network.hears = s.world.network.hears :=
    Network.hears_congr (renewed.listening.trans received.listening)
  have heard : ∀ a ∈ sends more, s.world.network.hears a = true := fun a ha =>
    (attempt'.hears_sent _ a ha).trans attempt.heard
  have heardFirst : s.world.network.hears (addHeaders r h) = true := attempt.heard
  rw [one, List.filter_cons_of_pos heardFirst] at received
  rw [ears, List.filter_eq_self.mpr heard] at received'
  have all : World.Received _ s.world next.world :=
    (received.trans ⟨renewed.arrived, renewed.listening, renewed.clock⟩).trans received'
  refine ⟨before, addHeaders r h, renewal, fetched, more, outcome, next, ?_,
    asked_of_plan beginning, ?_, planned, attempt', renewed.clock.trans received.clock, hit, stale⟩
  · rw [run_request_twice first again token second, all.arrivals_eq]
    simp
  · have whole : renewal.map (·.errand) <+: c.plan := planned ▸ List.prefix_rfl
    rw [asked_append, asked_of_plan whole, asked_of_plan beginning']
    rfl

/-- **Renewed once, exactly if the token is usable at once.**  After a refusal and a fetch that went
well there is one exchange between two sendings, and the second carries its token, if and only if
the life of the token is longer than the threshold and the token can stand in a header. -/
theorem retry_renews_once_iff (first : (c.sendWithToken r).run s = (.ok response, mid))
    (again : c.Retries r response)
    (token : (c.obtain .fresh).run (mid.noted response.raw.status) = (.ok t, ready)) :
    RenewedOnce r t (s.arrivals ((c.request r).run s).2) ↔
      t.isUsable s.world.clock.now s.cache.threshold = true ∧ ∃ v, bearerValue t.token = .ok v := by
  obtain ⟨before, a, renewal, fetched, more, outcome, next, arrived, hbefore, hmiddle, planned,
    attempt, clock, hit, stale⟩ := arrivals_of_retry first again token
  have stored := stored_of_fresh token
  -- the second attempt looks at the fresh token with the clock and the threshold of the beginning
  have threshold : ready.cache.threshold = s.cache.threshold := by
    obtain ⟨deeds, attempted⟩ := attempt_of_run first
    exact (obtain_threshold token).trans attempted.threshold
  have usable : ready.cache.usable? ready.world.clock.now
      = if t.isUsable s.world.clock.now s.cache.threshold then some t else none := by
    unfold TokenCache.usable?
    rw [stored, clock, threshold]
    rfl
  have asked_eq : asked (s.arrivals ((c.request r).run s).2) = a :: sends more := by
    rw [arrived, asked_append, hbefore, asked_cons_target, asked_append, hmiddle, asked_target]
    rfl
  have between_eq : between (s.arrivals ((c.request r).run s).2) = renewal ++ fetched := by
    rw [arrived]
    exact between_eq hbefore hmiddle
  unfold RenewedOnce
  rw [asked_eq, between_eq]
  constructor
  · rintro ⟨_, b, v, sent, once, value, -⟩
    refine ⟨?_, v, value⟩
    -- otherwise the second attempt begins with a second exchange
    by_contra unusable
    rw [if_neg unusable] at usable
    have twice : fetched.map (·.errand) = c.plan := by
      refine stale usable ?_
      rw [(List.cons.inj sent).2]
      exact List.cons_ne_nil b []
    rw [List.map_append, List.count_append, planned, twice, c.count_exchange_plan] at once
    omega
  · rintro ⟨isUsable, v, value⟩
    rw [if_pos isUsable] at usable
    have found := c.run_obtain_hit usable
    obtain ⟨deeds, attempted⟩ := attempt_of_run first
    obtain ⟨_, _, made, -⟩ := attempted.sends_of_ok
    obtain ⟨h, signed⟩ := bearerHeaders_of_other made value
    cases attempt with
    | unready token' =>
      rw [found] at token'
      cases token'
    | unsigned token' headers =>
      rw [found] at token'
      cases token'
      rw [signed] at headers
      cases headers
    | sent token' headers =>
      rw [found] at token'
      cases token'
      refine ⟨a, _, v, rfl, ?_, value, addHeaders_authorization r headers value⟩
      rw [hit t usable, List.append_nil, planned]
      exact c.count_exchange_plan

end Refused

/-! ## §4. A life of an hour and a life of a minute. -/

namespace Refusing

/-- Credentials that try again, with the standard threshold of five minutes. -/
def credentials : Credentials where
  source := .application
  sts := ⟨"http://sts/token", .anonymous⟩
  impersonationUrl := none
  audience := "audience"
  subjectTokenType := "type"
  scopes := [platformScope]
  quotaProject := none
  policy := { RefreshPolicy.standard with retryRefused := true }
  projectNumber := none
  projectsUrl := standardProjectsUrl

/-- An answer of the token endpoint. -/
def exchanged (token seconds : String) : Reply :=
  .respond 200 .empty (Utf8.encode ("\x7b\"access_token\":\"" ++ token ++ "\",\"expires_in\":" ++
    seconds ++ "\x7d")) true

/-- A world that refuses the first request it gets, and in which tokens live for some seconds. -/
def world (seconds : String) : World where
  network :=
    { listening := true
      script := [exchanged "token-1" seconds, .respond 401 .empty [] true,
        exchanged "token-2" seconds, exchanged "token-3" seconds,
        .respond 200 .empty (Utf8.encode "ok") true]
      arrived := [] }
  files := ⟨[], []⟩
  clock := .start
  subjects := [.token "subject", .token "subject", .token "subject"]
  log := []

/-- A session in that world. -/
def session (seconds : String) : Session := credentials.session (world seconds)

/-- A request without headers of its own. -/
def request : Request where
  method := "GET"
  url := ⟨"http".toList, some ⟨[], [], .name "api".toList, none⟩, .segments [[]], none, none⟩
  headers := .empty
  body := .none

/-- A refusal makes it go again. -/
theorem retries {response : Response} (refused : response.raw.status = 401) :
    credentials.Retries request response :=
  ⟨rfl, nofun, .inl refused⟩

end Refusing

open Refusing in
/-- Tokens that live for an hour are renewed once. -/
theorem retry_renews_once_in_an_hour :
    ∃ response mid t ready,
      (credentials.sendWithToken request).run (session "3600") = (.ok response, mid) ∧
      credentials.Retries request response ∧
      (credentials.obtain .fresh).run (mid.noted response.raw.status) = (.ok t, ready) ∧
      RenewedOnce request t
        ((session "3600").arrivals ((credentials.request request).run (session "3600")).2) := by
  refine ⟨_, _, _, _, rfl, retries rfl, rfl, ?_⟩
  exact (retry_renews_once_iff rfl (retries rfl) rfl).mpr ⟨by decide, _, rfl⟩

open Refusing in
/-- Tokens that live for a minute are renewed twice, and the second sending carries the last one,
although every exchange goes well. -/
theorem retry_renews_twice_in_a_minute :
    let arrivals := (session "60").arrivals ((credentials.request request).run (session "60")).2
    (∃ response mid t ready u next,
      (credentials.sendWithToken request).run (session "60") = (.ok response, mid) ∧
      credentials.Retries request response ∧
      (credentials.obtain .fresh).run (mid.noted response.raw.status) = (.ok t, ready) ∧
      credentials.accessToken.run ready = (.ok u, next) ∧ ¬ RenewedOnce request t arrivals) ∧
    arrivals.map (·.errand) = [.exchange, .target, .exchange, .exchange, .target] ∧
    (asked arrivals).map (fun a => (a.headers.values authorizationName).map (·.text))
      = [["Bearer token-1"], ["Bearer token-3"]] := by
  intro arrivals
  refine ⟨⟨_, _, _, _, _, _, rfl, retries rfl, rfl, rfl, ?_⟩, rfl, rfl⟩
  rintro ⟨a, b, v, -, once, -⟩
  exact absurd once (by decide)

end WorkloadIdentity
