/-
  WorkloadIdentity.Proofs.Credentials.Exchanges ──── **HOW OFTEN TOKENS ARE EXCHANGED.**

  Without a service account every token comes from one exchange and lives for the seconds of its
  answer.  If these are at least `e`, nobody needs another token for `1000 e` milliseconds less the
  threshold, however many callers come and whatever way they overtake one another: whoever takes
  the lock looks at the cache again.  So exchanges are that far apart, and few fit between two
  readings of the clock.

  The argument is one induction over the run.  Its invariant `Paced` remembers when the last
  exchange took place: until that pause has passed the cache serves everybody, so whoever fetches
  has begun after it.

  Main results:
    * `length_le_of_apart`             — how many readings fit between the first and the last
    * `Credentials.Paced.step`         — one more thing happens
    * `Credentials.exchanges_bounded`  — the bound, for every run
-/
import WorkloadIdentity.Proofs.Credentials.Happenings
import WorkloadIdentity.Proofs.Credentials.Journey

namespace WorkloadIdentity

/-! ## §1. Readings that are far apart. -/

/-- Each reading is at least a pause after the one before it. -/
def Apart (pause : Int) (readings : List Int) : Prop :=
  readings.IsChain fun earlier later => earlier + pause ≤ later

theorem Apart.mul_le {pause first last : Int} {rest : List Int}
    (apart : Apart pause (first :: rest)) (ends : (first :: rest).getLast? = some last) :
    rest.length * pause ≤ last - first := by
  induction rest generalizing first with
  | nil =>
    cases ends
    simp
  | cons second rest ih =>
    obtain ⟨pausing, later⟩ := List.isChain_cons_cons.mp apart
    rw [List.getLast?_cons_cons] at ends
    have through := ih later ends
    rw [List.length_cons, Nat.cast_add, Nat.cast_one, Int.add_mul]
    omega

/-- **No more readings fit between the first and the last** than there are pauses, and one. -/
theorem length_le_of_apart {pause first last : Int} {readings : List Int} (positive : 0 < pause)
    (apart : Apart pause readings) (starts : readings.head? = some first)
    (ends : readings.getLast? = some last) :
    (readings.length : Int) ≤ 1 + (last - first) / pause := by
  cases readings with
  | nil => cases starts
  | cons r rest =>
    cases starts
    have pauses : (rest.length : Int) ≤ (last - first) / pause :=
      (Int.le_ediv_iff_mul_le positive).mpr (apart.mul_le ends)
    rw [List.length_cons, Nat.cast_add, Nat.cast_one]
    omega

/-! ## §2. A token serves for a while. -/

theorem Millis.le_clamp {a b : Int} (below : a ≤ b) (bound : a ≤ Millis.greatest) :
    a ≤ Millis.clamp b := by
  unfold Millis.clamp
  split
  · omega
  · split <;> omega

/-- The milliseconds of at least as many seconds as can be told. -/
theorem Millis.le_ofSeconds {e n : Nat} (long : e ≤ n) (tellable : 1000 * (e : Int) ≤ greatest) :
    1000 * (e : Int) ≤ ofSeconds n := by
  have cut : (e : Int) ≤ clamp n := le_clamp (by omega) (by omega)
  exact le_clamp (by omega) tellable

theorem Span.toMillis_nonneg (s : Span) : 0 ≤ s.toMillis :=
  Millis.le_clamp (Int.natCast_nonneg _) (by decide)

/-- **A token that lives for `e` seconds can be used** until a threshold before its end. -/
theorem AccessToken.isUsable_of_lt {t : AccessToken} {e n : Nat} {made now threshold : Int}
    (expiry : t.expiry = some (Millis.add made (Millis.ofSeconds n))) (long : e ≤ n)
    (tellable : 1000 * (e : Int) ≤ Millis.greatest)
    (fits : made + 1000 * (e : Int) ≤ Millis.greatest) (nonneg : 0 ≤ threshold)
    (early : now < made + (1000 * (e : Int) - threshold)) : t.isUsable now threshold = true := by
  have seconds := Millis.le_ofSeconds long tellable
  have late : made + 1000 * (e : Int) ≤ Millis.add made (Millis.ofSeconds n) :=
    Millis.le_clamp (by omega) fits
  have left : made + (1000 * (e : Int) - threshold)
      ≤ Millis.sub (Millis.add made (Millis.ofSeconds n)) threshold :=
    Millis.le_clamp (by omega) (by omega)
  unfold AccessToken.isUsable
  rw [expiry]
  exact decide_eq_true (by omega)

namespace Credentials

/-! ## §3. Exchanges, and how they are answered. -/

/-- The readings of the clock at the exchanges of one thing that happens. -/
def Happening.exchanges (c : Credentials) (clock : Clock) (h : Happening) : List Int :=
  ((h.sent c clock).filter (·.errand = .exchange)).map fun _ => clock.now

/-- **The readings of the clock at which tokens were exchanged**, in order. -/
def exchanges (c : Credentials) : Timeline → List Happening → List Int
  | _, [] => []
  | s, h :: rest =>
    match c.happen? s h with
    | none => []
    | some next => h.exchanges c s.clock ++ c.exchanges next rest

/-- In a world every exchange is answered with a token that lives for at least `e` seconds. -/
def Grants (c : Credentials) (e : Nat) (w : World) : Prop :=
  ∀ s mid, c.source.retrieve.run w = (.ok s, mid) →
    ∃ answer next, (c.sts.exchange (c.form s) Headers.empty).run mid = (.ok answer, next) ∧
      ∀ seconds, answer.expiresIn = some seconds → e ≤ seconds

/-- Callers come for a current token, nobody installs one, the clock never goes back, and every
exchange is answered with at least `e` seconds whose end can be told. -/
def Steady (c : Credentials) (e : Nat) (s : Timeline) : Happening → Prop
  | .ask d => d = .current
  | .enter _ => True
  | .fetch w => c.Grants e (w.readAt s.clock) ∧ s.clock.now + 1000 * (e : Int) ≤ Millis.greatest
  | .install _ => False
  | .adjust a => s.clock.now ≤ (s.clock.adjust a).now

/-- That is so all along. -/
def SteadyAlong (c : Credentials) (e : Nat) : Timeline → List Happening → Prop
  | _, [] => True
  | s, h :: rest =>
    c.Steady e s h ∧
      match c.happen? s h with
      | none => True
      | some next => SteadyAlong c e next rest

theorem SteadyAlong.cons {c : Credentials} {e : Nat} {s next : Timeline} {h : Happening}
    {rest : List Happening} (steady : c.SteadyAlong e s (h :: rest))
    (happened : c.happen? s h = some next) : c.Steady e s h ∧ c.SteadyAlong e next rest := by
  unfold SteadyAlong at steady
  rw [happened] at steady
  exact steady

variable {c : Credentials} {e : Nat}

theorem count_exchange_source (source : SubjectSource) : source.plan.count .exchange = 0 := by
  cases source <;> rfl

/-- The exchanges of a fetch are counted by the errands of its requests. -/
theorem exchanges_fetch (c : Credentials) (clock : Clock) (w : World) :
    (Happening.fetch w).exchanges c clock = List.replicate
      ((((Happening.fetch w).sent c clock).map (·.errand)).count .exchange) clock.now := by
  unfold Happening.exchanges
  rw [List.map_const', ← List.countP_eq_length_filter, List.count, List.countP_map]
  rfl

/-- **A fetch whose exchange is granted**: there was no subject token and no exchange, or one
exchange and a token that lives long enough. -/
theorem fetch_granted {clock : Clock} {w : World} (direct : c.impersonationUrl = none)
    (grants : c.Grants e (w.readAt clock)) :
    (∃ refusal, (c.fetch.run (w.readAt clock)).1 = .error refusal ∧
      (Happening.fetch w).exchanges c clock = []) ∨
    (∃ t, (c.fetch.run (w.readAt clock)).1 = .ok t ∧
      (Happening.fetch w).exchanges c clock = [clock.now] ∧
      ∀ expiry, t.expiry = some expiry →
        ∃ n, e ≤ n ∧ expiry = Millis.add clock.now (Millis.ofSeconds n)) := by
  rcases retrieved : c.source.retrieve.run (w.readAt clock) with ⟨result, mid⟩
  cases result with
  | error refusal =>
    -- nothing but the subject token was asked for
    have ran := fetch_unretrieved (c := c) retrieved
    obtain ⟨new, received, beginning, -⟩ := c.source.retrieve_follows (w.readAt clock)
    have sent : (Happening.fetch w).sent c clock = new := by
      rw [retrieved] at received
      show (w.readAt clock).arrivals (c.fetch.run (w.readAt clock)).2 = new
      rw [ran]
      exact World.arrivals_eq received.arrived
    refine .inl ⟨refusal, by rw [ran], ?_⟩
    have none_asked : (new.map (·.errand)).count .exchange = 0 :=
      Nat.le_zero.mp (count_exchange_source c.source ▸ beginning.sublist.count_le _)
    rw [exchanges_fetch, sent, none_asked]
    rfl
  | ok s =>
    obtain ⟨answer, next, traded, long⟩ := grants s mid retrieved
    have ran := fetch_direct retrieved traded direct
    have still : next.clock = clock := by
      obtain ⟨new, received, -, -⟩ := c.fetch_follows (w.readAt clock)
      rw [ran] at received
      exact received.clock
    refine .inr ⟨answer.token next.clock.now, by rw [ran], ?_, ?_⟩
    · have whole := (c.sent_fetch clock w).2 _ (congrArg Prod.fst ran)
      rw [exchanges_fetch, whole, c.count_exchange_plan]
      rfl
    · intro expiry he
      obtain ⟨n, lives, rfl⟩ := Option.map_eq_some_iff.mp he
      exact ⟨n, long n lives, by rw [still]⟩

/-! ## §4. The invariant. -/

/-- For how long after an exchange nobody needs another. -/
def pause (c : Credentials) (e : Nat) : Int := 1000 * (e : Int) - c.policy.threshold.toMillis

/-- **What the last exchange leaves behind**: until the pause after it has passed everybody is
served, so whoever fetches has begun later. -/
structure Paced (c : Credentials) (e : Nat) (last : Option Int) (s : Timeline) : Prop where
  /-- Callers wait for a current token. -/
  current : ∀ (k : Nat) (d : Demand), s.phases[k]? = some (.waiting d) → d = .current
  /-- The threshold is the one of the credentials. -/
  threshold : s.cache.threshold = c.policy.threshold.toMillis
  /-- The token of the last exchange serves for the pause. -/
  serves : ∀ made, last = some made → ∀ now < made + c.pause e, s.cache.usable? now ≠ none
  /-- A fetch that is under way has begun after the pause. -/
  begun : ∀ made, last = some made → ∀ k, s.holder = some k → made + c.pause e ≤ s.clock.now

theorem paced_start (c : Credentials) (e : Nat) (clock : Clock) :
    Paced c e none (.start (TokenCache.empty c.policy.threshold) clock) where
  current k d h := by cases h
  threshold := rfl
  serves made h := by cases h
  begun made h := by cases h

/-- A token that lives long enough serves for the pause once it is stored. -/
theorem usable?_renew {cache : TokenCache} {t : AccessToken} {made : Int}
    (threshold : cache.threshold = c.policy.threshold.toMillis)
    (tellable : 1000 * (e : Int) ≤ Millis.greatest)
    (fits : made + 1000 * (e : Int) ≤ Millis.greatest)
    (long : ∀ expiry, t.expiry = some expiry →
      ∃ n, e ≤ n ∧ expiry = Millis.add made (Millis.ofSeconds n)) :
    ∀ now < made + c.pause e, (cache.renew t).usable? now ≠ none := by
  intro now early stale
  have usable : t.isUsable now cache.threshold = true := by
    rcases he : t.expiry with _ | expiry
    · unfold AccessToken.isUsable
      rw [he]
    · obtain ⟨n, lives, rfl⟩ := long expiry he
      rw [threshold]
      exact AccessToken.isUsable_of_lt he lives tellable fits (Span.toMillis_nonneg _) early
  exact Option.filter_eq_none_iff.mp stale t rfl usable

/-- **One more thing happens**: no exchange, or one that begins a new pause after the last. -/
theorem Paced.step {last : Option Int} {s next : Timeline} {h : Happening}
    (direct : c.impersonationUrl = none) (tellable : 1000 * (e : Int) ≤ Millis.greatest)
    (paced : Paced c e last s) (steady : c.Steady e s h)
    (step : Timeline.Step s (h.event c s.clock) next) :
    (h.exchanges c s.clock = [] ∧ Paced c e last next) ∨
    (h.exchanges c s.clock = [s.clock.now] ∧
      (∀ made, last = some made → made + c.pause e ≤ s.clock.now) ∧
      Paced c e (some s.clock.now) next) := by
  have current : ∀ (k : Nat) (d : Demand), next.phases[k]? = some (.waiting d) → d = .current := by
    intro k d waits
    rcases step.waits waits with was | came
    · exact paced.current k d was
    · cases h with
      | ask d' =>
        cases came
        exact steady
      | _ => cases came
  cases h with
  | ask d =>
    refine .inl ⟨rfl, current, ?_, ?_, ?_⟩
    · exact step.threshold.trans paced.threshold
    · cases step <;> exact paced.serves
    · cases step <;> exact paced.begun
  | enter k =>
    refine .inl ⟨rfl, current, step.threshold.trans paced.threshold, ?_, ?_⟩
    · cases step <;> exact paced.serves
    · intro made hmade j held
      cases step with
      | served => exact paced.begun made hmade j held
      | @fetch _ d _ waits stale =>
        -- nothing was usable, so the pause has passed
        refine Int.not_lt.mp fun early => paced.serves made hmade s.clock.now early ?_
        exact stale (paced.current k d waits)
  | fetch w =>
    obtain ⟨grants, fits⟩ := steady
    obtain ⟨k, held, rfl⟩ := step.settles
    rcases fetch_granted direct grants with
      ⟨refusal, refused, unexchanged⟩ | ⟨t, granted, exchanged, long⟩
    · refine .inl ⟨unexchanged, current, step.threshold.trans paced.threshold, ?_, nofun⟩
      rw [refused]
      exact paced.serves
    · refine .inr ⟨exchanged, fun made hmade => paced.begun made hmade k held, current,
        step.threshold.trans paced.threshold, ?_, nofun⟩
      intro made same
      cases same
      rw [granted]
      exact usable?_renew paced.threshold tellable fits long
  | install t => exact steady.elim
  | adjust a =>
    refine .inl ⟨rfl, current, step.threshold.trans paced.threshold, ?_, ?_⟩
    · cases step
      exact paced.serves
    · intro made hmade k held
      cases step
      exact (paced.begun made hmade k held).trans steady

/-! ## §5. Every run. -/

/-- **Exchanges are a pause apart**, the last one before the run included. -/
theorem apart_of_live {last : Option Int} {s final : Timeline} {hs : List Happening}
    (direct : c.impersonationUrl = none) (tellable : 1000 * (e : Int) ≤ Millis.greatest)
    (paced : Paced c e last s) (steady : c.SteadyAlong e s hs) (run : c.live? s hs = some final) :
    Apart (c.pause e) (last.toList ++ c.exchanges s hs) := by
  -- the last exchange goes along, so the induction is on what is still to happen
  induction hs generalizing last s with
  | nil => cases last <;> simp [Apart, exchanges]
  | cons h rest ih =>
    obtain ⟨next, happened, run⟩ := live?_cons run
    have split : c.exchanges s (h :: rest) = h.exchanges c s.clock ++ c.exchanges next rest := by
      simp only [exchanges, happened]
    rw [split]
    obtain ⟨now, steady⟩ := steady.cons happened
    rcases paced.step direct tellable now (happen?_eq_some_iff.mp happened) with
      ⟨unexchanged, paced⟩ | ⟨exchanged, after, paced⟩
    · rw [unexchanged, List.nil_append]
      exact ih paced steady run
    · have later : Apart (c.pause e) (s.clock.now :: c.exchanges next rest) :=
        ih paced steady run
      rw [exchanged]
      cases last with
      | none => exact later
      | some made => exact List.isChain_cons_cons.mpr ⟨after made rfl, later⟩

/-- **Few exchanges are enough.**  At credentials without a service account whose cache was empty,
callers come and overtake one another in any way, nobody installs a token or asks for a fresh one,
the clock never goes back, and every exchange is answered with a life of at least `e` seconds that
is longer than the threshold and can be told in milliseconds.  Then between the first exchange and
the last there are no more than fit, each a life less the threshold after the one before it. -/
theorem exchanges_bounded {clock : Clock} {hs : List Happening} {s : Timeline}
    (direct : c.impersonationUrl = none)
    (long : c.policy.threshold.toMillis < 1000 * (e : Int))
    (tellable : 1000 * (e : Int) ≤ Millis.greatest)
    (run : c.live? (.start (TokenCache.empty c.policy.threshold) clock) hs = some s)
    (steady : c.SteadyAlong e (.start (TokenCache.empty c.policy.threshold) clock) hs)
    {first last : Int}
    (starts : (c.exchanges (.start (TokenCache.empty c.policy.threshold) clock) hs).head?
      = some first)
    (ends : (c.exchanges (.start (TokenCache.empty c.policy.threshold) clock) hs).getLast?
      = some last) :
    ((c.exchanges (.start (TokenCache.empty c.policy.threshold) clock) hs).length : Int)
      ≤ 1 + (last - first) / (1000 * (e : Int) - c.policy.threshold.toMillis) := by
  have positive : 0 < c.pause e := Int.sub_pos_of_lt long
  have apart := apart_of_live direct tellable (c.paced_start e clock) steady run
  exact length_le_of_apart positive apart starts ends

end Credentials

/-! ## §6. A life of ten minutes, and one that is too long to tell. -/

namespace Granting

/-- Credentials whose subject tokens the application brings. -/
def credentials (threshold : Span) : Credentials where
  source := .application
  sts := ⟨"http://sts/token", .anonymous⟩
  impersonationUrl := none
  audience := "audience"
  subjectTokenType := "type"
  scopes := [platformScope]
  quotaProject := none
  policy := ⟨threshold, false⟩
  projectNumber := none
  projectsUrl := standardProjectsUrl

/-- A world in which a token lives for some seconds. -/
def world (seconds : String) : World where
  network := ⟨true, [.respond 200 .empty (Utf8.encode
    ("\x7b\"access_token\":\"t\",\"expires_in\":" ++ seconds ++ "\x7d")) true], []⟩
  files := ⟨[], []⟩
  clock := .start
  subjects := [.token "subject"]
  log := []

/-- Five minutes. -/
def minutes : Span := ⟨300, 0⟩

/-- As many milliseconds as can be told. -/
def ages : Span := ⟨9223372036854775, 807000000⟩

theorem grants_ten_minutes (clock : Clock) :
    (credentials minutes).Grants 600 ((world "600").readAt clock) := by
  intro s mid retrieved
  cases retrieved
  refine ⟨_, _, rfl, ?_⟩
  intro seconds lives
  cases lives
  decide

theorem grants_ages (clock : Clock) :
    (credentials ages).Grants 9223372036854776 ((world "9223372036854776").readAt clock) := by
  intro s mid retrieved
  cases retrieved
  refine ⟨_, _, rfl, ?_⟩
  intro seconds lives
  cases lives
  decide

/-- Callers come in twos; of the second two the first finds the token still usable. -/
def inTwos : List Credentials.Happening :=
  [.ask .current, .ask .current, .enter 1, .fetch (world "600"), .enter 0, .adjust (.set 299999),
    .ask .current, .adjust (.advance ⟨0, 1000000⟩), .ask .current, .enter 3, .fetch (world "600")]

/-- Two callers come at once. -/
def twice : List Credentials.Happening :=
  [.ask .current, .enter 0, .fetch (world "9223372036854776"), .ask .current, .enter 1,
    .fetch (world "9223372036854776")]

/-- Nobody has come yet, and there is no token. -/
def start (threshold : Span) (now : Int) : Timeline :=
  .start (TokenCache.empty (credentials threshold).policy.threshold) ⟨now⟩

end Granting

namespace Credentials

open Granting in
/-- Tokens of ten minutes, given up after five: the second exchange takes place five minutes after
the first, and not before. -/
theorem exchanges_bounded_in_five_minutes :
    (∃ s, (credentials minutes).live? (start minutes 0) inTwos = some s) ∧
    (credentials minutes).SteadyAlong 600 (start minutes 0) inTwos ∧
    (credentials minutes).exchanges (start minutes 0) inTwos = [0, 300000] ∧
    ((2 : Nat) : Int) ≤ 1 + (300000 - 0)
      / (1000 * ((600 : Nat) : Int) - (credentials minutes).policy.threshold.toMillis) := by
  obtain ⟨s, run⟩ : ∃ s, (credentials minutes).live? (start minutes 0) inTwos = some s := ⟨_, rfl⟩
  have granted : ∀ now : Int, now ≤ 300000 →
      (credentials minutes).Grants 600 ((world "600").readAt ⟨now⟩) ∧
        now + 1000 * ((600 : Nat) : Int) ≤ Millis.greatest := by
    intro now early
    exact ⟨grants_ten_minutes ⟨now⟩, by unfold Millis.greatest; omega⟩
  have first := granted 0 (by decide)
  have second := granted 300000 (by decide)
  have forward : (0 : Int) ≤ 299999 ∧ (299999 : Int) ≤ 300000 := by decide
  have steady : (credentials minutes).SteadyAlong 600 (start minutes 0) inTwos :=
    ⟨rfl, rfl, trivial, first, trivial, forward.1, rfl, forward.2, rfl, trivial, second, trivial⟩
  have exchanged : (credentials minutes).exchanges (start minutes 0) inTwos = [0, 300000] := rfl
  refine ⟨⟨s, run⟩, steady, exchanged, ?_⟩
  have starts := congrArg List.head? exchanged
  have ends := congrArg List.getLast? exchanged
  have bounded := exchanges_bounded (c := credentials minutes) rfl (by decide) (by decide) run
    steady starts ends
  have many := congrArg List.length exchanged
  rw [show (2 : Nat) = _ from many.symm]
  exact bounded

open Granting in
/-- A life that is longer than can be told is cut to what can be, and the threshold takes all of
it: before 1970, although the end of the life itself could be told.  Then two callers who come at
the same instant exchange a token each. -/
theorem exchanges_twice_at_once :
    (credentials ages).impersonationUrl = none ∧
    (credentials ages).policy.threshold.toMillis < 1000 * ((9223372036854776 : Nat) : Int) ∧
    (∃ s, (credentials ages).live? (start ages (-1000)) twice = some s) ∧
    (credentials ages).SteadyAlong 9223372036854776 (start ages (-1000)) twice ∧
    (credentials ages).exchanges (start ages (-1000)) twice = [-1000, -1000] ∧
    ¬ (((2 : Nat) : Int) ≤ 1 + (-1000 - -1000) / (1000 * ((9223372036854776 : Nat) : Int)
      - (credentials ages).policy.threshold.toMillis)) := by
  have granted : (credentials ages).Grants 9223372036854776
        ((world "9223372036854776").readAt ⟨-1000⟩) ∧
      (-1000 : Int) + 1000 * ((9223372036854776 : Nat) : Int) ≤ Millis.greatest :=
    ⟨grants_ages ⟨-1000⟩, by decide +kernel⟩
  refine ⟨rfl, by decide +kernel, ⟨_, rfl⟩, ?_, rfl, by decide +kernel⟩
  exact ⟨rfl, trivial, granted, rfl, trivial, granted, trivial⟩

end Credentials

end WorkloadIdentity
