/-
  WorkloadIdentity.Proofs.Time.Instants ──── **HOW EXACTLY THE END OF A TOKEN IS TOLD.**

  A timestamp names an instant in nanoseconds, a token keeps it in milliseconds.  The fields of a
  timestamp are few digits each, so every instant that can be read lies far inside the range of a
  word, and nothing is cut off but the part of a millisecond.  That part is cut toward zero: after
  the epoch the token ends a little early, before it a little late, but never so late that a whole
  millisecond of the clock lies beyond its end.

  Main results:
    * `AccessToken.isUsable_iff`      — when a token can be used, in unbounded integers
    * `Timestamp.legal_of_parse`      — what the fields of a timestamp are bounded by
    * `Timestamp.unixMillis_of_legal` — its milliseconds are never replaced by the latest instant
    * `Impersonation.generate_tells_end` — the token of a service account ends with its timestamp,
      to the millisecond
-/
import WorkloadIdentity.Proofs.Credentials.Posts

namespace WorkloadIdentity

/-! ## §1. Words. -/

/-- A count of milliseconds that a signed word of 64 bits can hold. -/
def Millis.IsWord (n : Int) : Prop := Millis.least ≤ n ∧ n ≤ Millis.greatest

instance (n : Int) : Decidable (Millis.IsWord n) := by
  unfold Millis.IsWord
  infer_instance

/-- Whatever lies below a clamped number lies below the number, and not only below the bound. -/
theorem Millis.lt_clamp_iff {now n : Int} (told : Millis.least ≤ now)
    (high : n ≤ Millis.greatest) : now < Millis.clamp n ↔ now < n := by
  by_cases low : Millis.least ≤ n
  · rw [Millis.clamp_of_mem low high]
  · -- below the range both are false: there the clamped number is the earliest instant
    have cut : Millis.clamp n = Millis.least := by
      unfold Millis.clamp
      rw [if_pos (by omega)]
    rw [cut]
    omega

/-- **A token can be used** as long as the threshold from now on ends before it does.  The sum on
the right is that of integers, though it may be no word. -/
theorem AccessToken.isUsable_iff {t : AccessToken} {now threshold : Int}
    (told : Millis.least ≤ now) (nonneg : 0 ≤ threshold)
    (high : ∀ expiry, t.expiry = some expiry → expiry ≤ Millis.greatest) :
    t.isUsable now threshold = true ↔
      ∀ expiry, t.expiry = some expiry → now + threshold < expiry := by
  unfold AccessToken.isUsable
  cases expires : t.expiry with
  | none => simp
  | some expiry =>
    have bound := high expiry expires
    have exact_sub : now < Millis.sub expiry threshold ↔ now < expiry - threshold :=
      Millis.lt_clamp_iff told (by omega)
    simp only [decide_eq_true_eq, exact_sub, Option.some.injEq, forall_eq']
    omega

/-! ## §2. The fields of a timestamp. -/

namespace Timestamp

/-- **Fields as the calendar has them**, an offset of less than a day included. -/
structure Legal (t : Timestamp) : Prop where
  /-- Four digits. -/
  year : t.date.year ≤ 9999
  /-- One of the months. -/
  month : t.date.month ≤ 12
  /-- A day of some month. -/
  day : t.date.day ≤ 31
  /-- An hour of a day. -/
  hour : t.hour ≤ 23
  /-- A minute of an hour. -/
  minute : t.minute ≤ 59
  /-- A second of a minute. -/
  second : t.second ≤ 59
  /-- Less than a second. -/
  nanos : t.nanos ≤ 999999999
  /-- Less than a day behind universal time. -/
  behind : -1439 ≤ t.offset
  /-- Less than a day ahead of it. -/
  ahead : t.offset ≤ 1439

theorem digitValue?_le {b : UInt8} {d : Nat} (h : Text.digitValue? b = some d) : d ≤ 9 := by
  unfold Text.digitValue? at h
  split at h
  · cases h
    omega
  · cases h

/-- So many digits make a number of so many digits. -/
theorem fixedDigits_lt {size acc v : Nat} {input rest : List UInt8}
    (h : fixedDigits size acc input = some (v, rest)) : v < (acc + 1) * 10 ^ size := by
  induction size generalizing acc input with
  | zero =>
    cases h
    omega
  | succ size ih =>
    cases input with
    | nil => cases h
    | cons b input =>
      unfold fixedDigits at h
      cases found : Text.digitValue? b with
      | none => simp [found] at h
      | some d =>
        rw [found] at h
        have digit := digitValue?_le found
        have later : v < (acc * 10 + d + 1) * 10 ^ size := ih h
        have wide : (acc * 10 + d + 1) * 10 ^ size ≤ (acc + 1) * 10 * 10 ^ size :=
          Nat.mul_le_mul_right _ (by omega)
        rw [Nat.pow_succ', ← Nat.mul_assoc]
        omega

theorem field_lt {name : String} {size v : Nat} {input rest : List UInt8}
    (h : field name size input = .ok (v, rest)) : v < 10 ^ size := by
  unfold field at h
  cases found : fixedDigits size 0 input with
  | none => simp [found] at h
  | some r =>
    rw [found] at h
    cases h
    have bound := fixedDigits_lt found
    omega

/-- The digits of a fraction are worth less than ten of the first one's weight. -/
theorem fractionDigits_le (weight acc : Nat) (input : List UInt8) :
    (fractionDigits weight acc input).1 ≤ acc + (10 * weight - 1) := by
  induction input generalizing weight acc with
  | nil => exact Nat.le_add_right _ _
  | cons b input ih =>
    unfold fractionDigits
    cases found : Text.digitValue? b with
    | none => exact Nat.le_add_right _ _
    | some d =>
      have digit : d * weight ≤ 9 * weight := Nat.mul_le_mul_right _ (digitValue?_le found)
      have later := ih (weight / 10) (acc + d * weight)
      dsimp only
      omega

theorem subsecond_le {input rest : List UInt8} {nanos : Nat}
    (h : subsecond input = .ok (nanos, rest)) : nanos ≤ 999999999 := by
  unfold subsecond at h
  split at h
  · next b rest' =>
    split at h
    · have bound := fractionDigits_le 100000000 0 (b :: rest')
      rw [congrArg Prod.fst (Except.ok.inj h)] at bound
      omega
    · cases h
  · cases h
  · cases h
    omega

theorem zoneOffset_bounds {input rest : List UInt8} {offset : Int}
    (h : zoneOffset input = .ok (offset, rest)) : -1439 ≤ offset ∧ offset ≤ 1439 := by
  unfold zoneOffset at h
  split at h
  · cases h
  · split at h
    · cases h
      omega
    · split at h
      · obtain ⟨⟨hour, rest₁⟩, -, h⟩ := exists_of_bind_ok h
        dsimp only at h
        split at h
        · cases h
        · obtain ⟨rest₂, -, h⟩ := exists_of_bind_ok h
          obtain ⟨⟨minute, rest₃⟩, -, h⟩ := exists_of_bind_ok h
          dsimp only at h
          split at h
          · cases h
          · cases h
            split <;> omega
      · cases h

/-- What has been read of the fields that are not checked: a year of four digits, a fraction of a
second, an offset of less than a day. -/
theorem fields_bounds {input : List UInt8} {t : Timestamp} (h : fields input = .ok t) :
    t.date.year ≤ 9999 ∧ t.nanos ≤ 999999999 ∧ -1439 ≤ t.offset ∧ t.offset ≤ 1439 := by
  unfold fields at h
  obtain ⟨⟨year, rest⟩, hyear, h⟩ := exists_of_bind_ok h
  obtain ⟨rest, -, h⟩ := exists_of_bind_ok h
  obtain ⟨⟨month, rest⟩, -, h⟩ := exists_of_bind_ok h
  dsimp only at h
  split at h
  · cases h
  obtain ⟨rest, -, h⟩ := exists_of_bind_ok h
  obtain ⟨⟨day, rest⟩, -, h⟩ := exists_of_bind_ok h
  obtain ⟨rest, -, h⟩ := exists_of_bind_ok h
  obtain ⟨⟨hour, rest⟩, -, h⟩ := exists_of_bind_ok h
  obtain ⟨rest, -, h⟩ := exists_of_bind_ok h
  obtain ⟨⟨minute, rest⟩, -, h⟩ := exists_of_bind_ok h
  obtain ⟨rest, -, h⟩ := exists_of_bind_ok h
  obtain ⟨⟨second, rest⟩, -, h⟩ := exists_of_bind_ok h
  obtain ⟨⟨nanos, rest⟩, hnanos, h⟩ := exists_of_bind_ok h
  obtain ⟨⟨ahead, rest⟩, hahead, h⟩ := exists_of_bind_ok h
  dsimp only at h
  split at h
  · cases h
  cases h
  have four : year < 9999 + 1 := field_lt hyear
  exact ⟨Nat.le_of_lt_succ four, subsecond_le hnanos, zoneOffset_bounds hahead⟩

theorem le_of_inRange {name : String} {least greatest n : Nat} {remark : Option String} {u : Unit}
    (h : inRange name least greatest n remark = .ok u) : n ≤ greatest := by
  unfold inRange at h
  split at h
  · next bounds => exact bounds.2
  · cases h

theorem daysInMonth_le (year month : Nat) : daysInMonth year month ≤ 31 := by
  unfold daysInMonth
  split
  · split <;> omega
  · split <;> omega

/-- **Every timestamp that can be read has fields as the calendar has them**; of a leap second it
is the stand-in that has. -/
theorem legal_of_parse {s : String} {t : Timestamp} (h : parse s = .ok t) : t.Legal := by
  obtain ⟨raw, read, h⟩ := exists_of_bind_ok h
  obtain ⟨hyear, hnanos, hbehind, hahead⟩ := fields_bounds read
  unfold check at h
  obtain ⟨_, hmonth, h⟩ := exists_of_bind_ok h
  obtain ⟨_, hday, h⟩ := exists_of_bind_ok h
  obtain ⟨_, hhour, h⟩ := exists_of_bind_ok h
  obtain ⟨_, hminute, h⟩ := exists_of_bind_ok h
  obtain ⟨_, hsecond, h⟩ := exists_of_bind_ok h
  dsimp only at h
  split at h
  · cases h
  cases h
  have day := (le_of_inRange hday).trans (daysInMonth_le _ _)
  have second := le_of_inRange hsecond
  -- the stand-in differs from what was read in the second and the fraction only
  unfold standIn at second ⊢
  split at second
  · next leap =>
    rw [if_pos leap]
    exact ⟨hyear, le_of_inRange hmonth, day, le_of_inRange hhour, le_of_inRange hminute, second,
      le_refl _, hbehind, hahead⟩
  · next usual =>
    rw [if_neg usual]
    exact ⟨hyear, le_of_inRange hmonth, day, le_of_inRange hhour, le_of_inRange hminute, second,
      hnanos, hbehind, hahead⟩

/-! ## §3. The instant of a timestamp. -/

theorem daysBeforeMonth_le (year month : Nat) :
    daysBeforeMonth year month ≤ 31 * (month - 1) := by
  unfold daysBeforeMonth
  induction month - 1 with
  | zero => exact Nat.le_refl _
  | succ n ih =>
    have last := daysInMonth_le year (n + 1)
    rw [List.range_succ, List.foldl_append, List.foldl_cons, List.foldl_nil]
    omega

/-- The day of a date whose year has four digits, in a span of ten thousand years and one. -/
theorem unixDay_bounds {d : Date} (year : d.year ≤ 9999) (month : d.month ≤ 12)
    (day : d.day ≤ 31) : -719600 ≤ d.unixDay ∧ d.unixDay ≤ 2933000 := by
  have months := daysBeforeMonth_le d.year d.month
  unfold Date.unixDay daysBeforeYear epochDay
  dsimp only
  omega

/-- **An instant that can be read lies far inside the range**: it is within some ten thousand years
of the epoch, and the range ends after two hundred million. -/
theorem Legal.unixNanos_bounds {t : Timestamp} (legal : t.Legal) :
    Millis.least * 1000 ≤ t.unixNanos ∧ t.unixNanos ≤ Millis.greatest * 1000 := by
  obtain ⟨early, late⟩ := unixDay_bounds legal.year legal.month legal.day
  have hour := legal.hour
  have minute := legal.minute
  have second := legal.second
  have nanos := legal.nanos
  have behind := legal.behind
  have ahead := legal.ahead
  unfold unixNanos unixSeconds Millis.least Millis.greatest
  push_cast
  omega

/-- What is left when the part of a unit is cut toward zero: after zero no more than the number,
before it less than a unit more. -/
theorem tdiv_mul_bounds (n : Int) :
    (Int.tdiv n 1000000 - 1) * 1000000 < n ∧ n < (Int.tdiv n 1000000 + 1) * 1000000 := by
  have parts := Int.tdiv_mul_add_tmod n 1000000
  have below := Int.tmod_lt_of_pos n (show (0 : Int) < 1000000 by decide)
  have above := Int.lt_tmod_of_pos n (show (0 : Int) < 1000000 by decide)
  omega

/-- **The milliseconds of a timestamp are a word**, so they are never replaced by the latest
instant. -/
theorem unixMillis_of_legal {t : Timestamp} (legal : t.Legal) :
    t.unixMillis = Int.tdiv t.unixNanos 1000000 ∧
      Millis.IsWord (Int.tdiv t.unixNanos 1000000) := by
  obtain ⟨low, high⟩ := legal.unixNanos_bounds
  obtain ⟨above, below⟩ := tdiv_mul_bounds t.unixNanos
  have word : Millis.IsWord (Int.tdiv t.unixNanos 1000000) := by
    unfold Millis.IsWord Millis.least Millis.greatest at *
    omega
  exact ⟨if_pos word, word⟩

/-- **No whole millisecond of the clock lies between an instant and what is kept of it.**  Before
the epoch what is kept may be later than the instant, but then the millisecond that begins there
ends before the instant. -/
theorem lt_tdiv_bounds (ms nanos : Int) :
    (ms < Int.tdiv nanos 1000000 → ms * 1000000 < nanos) ∧
      ((ms + 1) * 1000000 ≤ nanos → ms < Int.tdiv nanos 1000000) := by
  obtain ⟨above, below⟩ := tdiv_mul_bounds nanos
  constructor
  · intro before
    omega
  · intro after
    omega

end Timestamp

/-! ## §4. Tokens of service accounts. -/

/-- A token that ends with a timestamp: it is used only while the threshold from now on ends before
the instant, and it is used as long as a whole millisecond lies between the two. -/
theorem AccessToken.isUsable_until {t : AccessToken} {time : Timestamp} {now threshold : Int}
    (legal : time.Legal) (ends : t.expiry = some time.unixMillis) (told : Millis.IsWord now)
    (nonneg : 0 ≤ threshold) :
    (t.isUsable now threshold = true → (now + threshold) * 1000000 < time.unixNanos) ∧
      ((now + threshold + 1) * 1000000 ≤ time.unixNanos → t.isUsable now threshold = true) := by
  obtain ⟨millis, word⟩ := Timestamp.unixMillis_of_legal legal
  rw [millis] at ends
  have usable : t.isUsable now threshold = true ↔
      now + threshold < Int.tdiv time.unixNanos 1000000 := by
    rw [AccessToken.isUsable_iff told.1 nonneg fun expiry same => by
      rw [ends] at same
      cases same
      exact word.2]
    simp [ends]
  rw [usable]
  exact Timestamp.lt_tdiv_bounds (now + threshold) time.unixNanos

/-- What a successful answer comes to whose timestamp can be read. -/
theorem ServiceToken.ofResponse_ok {response : Response} {raw : RawResponse}
    {answer : ServiceToken} {time : Timestamp} (whole : response.read = .ok raw)
    (success : raw.status.isSuccess = true)
    (decoded : ServiceToken.record.parse raw.body = .ok answer)
    (timed : Timestamp.parse answer.expireTime = .ok time) :
    ofResponse response = .ok ⟨answer.accessToken, some time.unixMillis, some raw⟩ := by
  have accepted : response.accepted .impersonation = .ok raw := by
    unfold Response.accepted Response.answer
    rw [whole]
    exact if_pos success
  have read : Act.decode ServiceToken.record Errand.impersonation.doing raw = .ok answer := by
    unfold Act.decode
    rw [decoded]
  have made : Impersonation.token answer raw
      = .ok ⟨answer.accessToken, some time.unixMillis, some raw⟩ := by
    unfold Impersonation.token
    rw [timed]
  unfold ofResponse
  simp only [accepted, read, made, bind, Except.bind]

namespace Impersonation

/-- **A token of a service account ends with its timestamp.**  A successful answer whose timestamp
can be read, whatever its offset and fraction and on either side of the epoch, brings a token whose
end in milliseconds is a word.  At every reading of the clock and for every threshold the token can
be used only if the threshold from then on ends before the instant of the timestamp does, and it
can be used if there is a whole millisecond between the two. -/
theorem generate_tells_end {url accessToken : String} {scopes : List String} {u : Url}
    {h : Headers} {w : World} {response : Response} {raw : RawResponse} {answer : ServiceToken}
    {time : Timestamp} (parsed : Url.parse url = .ok u) (made : headers accessToken = .ok h)
    (answered : ((Act.send .impersonation
      ⟨"POST", u, h, .bytes (Utf8.encode (body scopes).render)⟩).run w).1 = .ok response)
    (whole : response.read = .ok raw) (success : raw.status.isSuccess = true)
    (decoded : ServiceToken.record.parse raw.body = .ok answer)
    (timed : Timestamp.parse answer.expireTime = .ok time) :
    ∃ t, ((generate url accessToken scopes).run w).1 = .ok t ∧
      t.expiry = some (Int.tdiv time.unixNanos 1000000) ∧
      Millis.IsWord (Int.tdiv time.unixNanos 1000000) ∧
      ∀ now threshold, Millis.IsWord now → 0 ≤ threshold →
        (t.isUsable now threshold = true → (now + threshold) * 1000000 < time.unixNanos) ∧
        ((now + threshold + 1) * 1000000 ≤ time.unixNanos → t.isUsable now threshold = true) := by
  have legal := Timestamp.legal_of_parse timed
  obtain ⟨millis, word⟩ := Timestamp.unixMillis_of_legal legal
  refine ⟨⟨answer.accessToken, some time.unixMillis, some raw⟩, ?_, ?_, word, ?_⟩
  · rw [run_generate scopes parsed made, answered]
    exact ServiceToken.ofResponse_ok whole success decoded timed
  · rw [millis]
  · intro now threshold told nonneg
    exact AccessToken.isUsable_until legal rfl told nonneg

end Impersonation

/-! ## §5. Half a millisecond before the epoch. -/

namespace Expiring

/-- An answer whose token ends half a millisecond before the epoch. -/
def ending : List UInt8 := Utf8.encode
  "\x7b\"accessToken\":\"t\",\"expireTime\":\"1970-01-01T00:29:59.9995+00:30\"\x7d"

/-- A world that answers so. -/
def world : World where
  network := ⟨true, [.respond 200 .empty ending true], []⟩
  files := ⟨[], []⟩
  clock := .start
  subjects := []
  log := []

end Expiring

open Expiring in
/-- Half a millisecond before the epoch is told as the epoch itself.  The token can still be used
in the millisecond before, and no longer at the epoch. -/
theorem Impersonation.generate_tells_end_before_epoch :
    ∃ u h response raw answer time,
      Url.parse "http://iam/generate" = .ok u ∧ headers "access" = .ok h ∧
      ((Act.send .impersonation
        ⟨"POST", u, h, .bytes (Utf8.encode (body [platformScope]).render)⟩).run world).1
          = .ok response ∧
      response.read = .ok raw ∧ raw.status.isSuccess = true ∧
      ServiceToken.record.parse raw.body = .ok answer ∧
      Timestamp.parse answer.expireTime = .ok time ∧ time.unixNanos = -500000 ∧
      ∃ t, ((generate "http://iam/generate" "access" [platformScope]).run world).1 = .ok t ∧
        t.expiry = some 0 ∧ t.isUsable (-1) 0 = true ∧ t.isUsable 0 0 = false := by
  refine ⟨_, _, _, _, _, _, rfl, rfl, rfl, rfl, rfl, rfl, rfl, rfl, ?_⟩
  obtain ⟨t, generated, ends, -, bounds⟩ :=
    @generate_tells_end "http://iam/generate" "access" [platformScope] _ _ world _ _ _ _
      rfl rfl rfl rfl rfl rfl rfl
  have ends : t.expiry = some 0 := ends
  refine ⟨t, generated, ends, ?_, ?_⟩
  · unfold AccessToken.isUsable
    rw [ends]
    decide
  · have late := (bounds 0 0 (by decide) (by decide)).1
    by_contra used
    exact absurd (late (by simpa using used)) (by decide)

end WorkloadIdentity
