/-
  WorkloadIdentity.Proofs.Request.Retry ──── **A REQUEST IS SENT AT MOST TWICE.**

  A request is one attempt, or an attempt that is refused, a fresh token and a second attempt; the
  first step that fails ends it.  Each property of a request is read off the three ways it can go.

  Main results:
    * `walk_of_run` — the three ways are all there are
    * `Walk.resends` — there is a second sending exactly if everything before it went well
    * `Credentials.request_keeps_course` — the course of every request
-/
import WorkloadIdentity.Proofs.Request.Attempt
import WorkloadIdentity.Proofs.Request.Signing

namespace WorkloadIdentity

open Credentials (addHeaders successful)

/-! ## §1. The ways of a request. -/

/-- What makes credentials send a request a second time: the policy, a body that can be taken
twice, and a refusal. -/
structure Credentials.Retries (c : Credentials) (r : Request) (response : Response) : Prop where
  /-- The policy permits it. -/
  permitted : c.policy.retryRefused = true
  /-- The body is no stream. -/
  lasting : ∀ content, r.body ≠ .stream content
  /-- The response is a refusal. -/
  refused : response.raw.status = 401 ∨ response.raw.status = 403

/-- How a request goes, by which steps. -/
inductive Walk (c : Credentials) (r : Request) (s : Session) :
    List Deed → Except AuthError Response → Session → Prop where
  /-- One attempt decides. -/
  | once {deeds : List Deed} {outcome : Except AuthError Response} {next : Session}
      (first : Attempt c r s deeds outcome next)
      (enough : ∀ response, outcome = .ok response → ¬ c.Retries r response) :
      Walk c r s deeds (outcome.bind successful) next
  /-- After a refusal there is no fresh token. -/
  | stranded {deeds : List Deed} {response : Response} {e : AuthError} {mid next : Session}
      (first : Attempt c r s deeds (.ok response) mid) (again : c.Retries r response)
      (token : (c.obtain .fresh).run (mid.noted response.raw.status) = (.error e, next)) :
      Walk c r s (deeds ++ [.log response.raw.status, .obtain .fresh (.error e)]) (.error e) next
  /-- After a refusal a second attempt decides. -/
  | twice {deeds more : List Deed} {response : Response} {t : AccessToken}
      {outcome : Except AuthError Response} {mid ready next : Session}
      (first : Attempt c r s deeds (.ok response) mid) (again : c.Retries r response)
      (token : (c.obtain .fresh).run (mid.noted response.raw.status) = (.ok t, ready))
      (second : Attempt c r ready more outcome next) :
      Walk c r s (deeds ++ [.log response.raw.status, .obtain .fresh (.ok t)] ++ more)
        (outcome.bind successful) next

/-- A request can be sent again, as it is, exactly if its body is no stream. -/
theorem Request.replay?_eq_some_iff {r again : Request} :
    r.replay? = some again ↔ again = r ∧ ∀ content, r.body ≠ .stream content := by
  unfold Request.replay?
  cases r.body <;> simp [eq_comm]

theorem isAuthFailure_iff (status : Status) :
    status.isAuthFailure = true ↔ status = 401 ∨ status = 403 := by
  unfold Status.isAuthFailure
  rw [Bool.or_eq_true, beq_iff_eq, beq_iff_eq]

/-- A response is told to the caller. -/
theorem run_told (response : Response) (s : Session) :
    ((match successful response with
      | .ok told => return told
      | .error e => throw e : Use Response)).run s = (successful response, s) := by
  cases successful response <;> rfl

theorem run_request_error {c : Credentials} {r : Request} {s next : Session} {e : AuthError}
    (first : (c.sendWithToken r).run s = (.error e, next)) :
    (c.request r).run s = (.error e, next) := by
  unfold Credentials.request
  exact run_bind_error first

/-- A response that is no reason to send again is told to the caller. -/
theorem run_request_enough {c : Credentials} {r : Request} {s next : Session} {response : Response}
    (first : (c.sendWithToken r).run s = (.ok response, next)) (enough : ¬ c.Retries r response) :
    (c.request r).run s = (successful response, next) := by
  unfold Credentials.request
  rw [run_bind_ok first]
  dsimp only
  cases permitted : c.policy.retryRefused with
  | false => exact run_told response next
  | true =>
    cases copy : r.replay? with
    | none => exact run_told response next
    | some again =>
      obtain ⟨-, lasting⟩ := Request.replay?_eq_some_iff.mp copy
      cases refused : response.raw.status.isAuthFailure with
      | false => exact run_told response next
      | true => exact absurd ⟨permitted, lasting, (isAuthFailure_iff _).mp refused⟩ enough

/-- After a refusal come a fresh token and a second attempt. -/
theorem run_request_again {c : Credentials} {r : Request} {s mid : Session} {response : Response}
    (first : (c.sendWithToken r).run s = (.ok response, mid)) (again : c.Retries r response) :
    (c.request r).run s
      = (do
          let _ ← c.obtain .fresh
          match successful (← c.sendWithToken r) with
          | .ok told => return told
          | .error e => throw e : Use Response).run (mid.noted response.raw.status) := by
  obtain ⟨permitted, lasting, refusal⟩ := again
  have copy := Request.replay?_eq_some_iff.mpr ⟨rfl, lasting⟩
  have refused := (isAuthFailure_iff _).mpr refusal
  have noted : (Use.outside (Act.note (Credentials.refusalRecord response.raw.status))).run mid
      = (.ok (), mid.noted response.raw.status) := rfl
  unfold Credentials.request
  rw [run_bind_ok first]
  simp only [permitted, copy, refused, if_true]
  exact run_bind_ok noted

/-- With a fresh token, the second attempt decides. -/
theorem run_request_twice {c : Credentials} {r : Request} {s mid ready next : Session}
    {response : Response} {t : AccessToken} {outcome : Except AuthError Response}
    (first : (c.sendWithToken r).run s = (.ok response, mid)) (again : c.Retries r response)
    (token : (c.obtain .fresh).run (mid.noted response.raw.status) = (.ok t, ready))
    (second : (c.sendWithToken r).run ready = (outcome, next)) :
    (c.request r).run s = (outcome.bind successful, next) := by
  rw [run_request_again first again, run_bind_ok token]
  cases outcome with
  | error e => exact run_bind_error second
  | ok response' =>
    rw [run_bind_ok second]
    exact run_told response' next

/-- **A request goes one of three ways.** -/
theorem walk_of_run (c : Credentials) (r : Request) (s : Session) :
    ∃ deeds, Walk c r s deeds ((c.request r).run s).1 ((c.request r).run s).2 := by
  rcases first : (c.sendWithToken r).run s with ⟨outcome, mid⟩
  obtain ⟨deeds, attempt⟩ := attempt_of_run first
  cases outcome with
  | error e =>
    rw [run_request_error first]
    exact ⟨deeds, .once attempt (fun _ impossible => by cases impossible)⟩
  | ok response =>
    by_cases again : c.Retries r response
    -- from the refusal on, every step is run where the last one has led
    · rcases token : (c.obtain .fresh).run (mid.noted response.raw.status) with ⟨obtained, ready⟩
      cases obtained with
      | error e =>
        rw [run_request_again first again, run_bind_error token]
        exact ⟨_, .stranded attempt again token⟩
      | ok t =>
        rcases second : (c.sendWithToken r).run ready with ⟨outcome, next⟩
        obtain ⟨more, attempt'⟩ := attempt_of_run second
        rw [run_request_twice first again token second]
        exact ⟨_, .twice attempt again token attempt'⟩
    · rw [run_request_enough first again]
      refine ⟨deeds, .once attempt (fun told same => ?_)⟩
      cases same
      exact again

/-! ## §2. What is true of all three. -/

/-- The steps of a request that goes its whole way. -/
def fullCourse : List Stage := attemptStages ++ [.log, .obtain .fresh] ++ attemptStages

/-- What has to go well for a second sending: an attempt that is refused, a fresh token, and the
token and the headers of the second attempt. -/
def Credentials.Resends (c : Credentials) (r : Request) (s : Session) : Prop :=
  ∃ first mid t ready h next, (c.sendWithToken r).run s = (.ok first, mid) ∧ c.Retries r first ∧
    (c.obtain .fresh).run (mid.noted first.raw.status) = (.ok t, ready) ∧
    c.headers.run ready = (.ok h, next)

theorem sends_append (deeds more : List Deed) : sends (deeds ++ more) = sends deeds ++ sends more :=
  List.filterMap_append

section Walks

variable {c : Credentials} {r : Request} {s final : Session} {deeds : List Deed}
  {result : Except AuthError Response}

theorem Walk.course (h : Walk c r s deeds result final) : Course c s deeds final := by
  cases h with
  | once first => exact first.course
  | stranded first _ token =>
    exact first.course.append (.cons (.log _) (.cons (.obtain token) (.nil _)))
  | twice first _ token second =>
    have renewal := first.course.append (.cons (.log _) (.cons (.obtain token) (.nil _)))
    exact renewal.append second.course

theorem Walk.stages (h : Walk c r s deeds result final) :
    deeds.map Deed.stage <+: fullCourse := by
  cases h with
  | once first =>
    refine first.stages.trans ?_
    unfold fullCourse
    rw [List.append_assoc]
    exact List.prefix_append _ _
  | stranded first =>
    obtain ⟨t, h, rfl⟩ := first.of_ok
    exact ⟨attemptStages, rfl⟩
  | twice first _ _ second =>
    obtain ⟨t, h, rfl⟩ := first.of_ok
    rw [List.map_append]
    exact (List.prefix_append_right_inj _).mpr second.stages

/-- Only the last step can fail. -/
theorem Walk.wentWell (h : Walk c r s deeds result final) :
    ∀ d ∈ deeds.dropLast, d.succeeded = true := by
  cases h with
  | once first => exact first.wentWell
  | stranded first =>
    rw [List.dropLast_append_of_ne_nil (List.cons_ne_nil _ _)]
    intro d hd
    rcases List.mem_append.mp hd with early | logged
    · exact first.allWell d early
    · cases List.mem_singleton.mp logged
      rfl
  | twice first _ _ second =>
    rw [List.dropLast_append_of_ne_nil second.ne_nil]
    intro d hd
    rcases List.mem_append.mp hd with early | late
    · rcases List.mem_append.mp early with tried | renewed
      · exact first.allWell d tried
      · simp only [List.mem_cons, List.not_mem_nil, or_false] at renewed
        rcases renewed with rfl | rfl <;> rfl
    · exact second.wentWell d late

/-- What a step has brought is what the next one works with. -/
theorem Walk.handsOn (h : Walk c r s deeds result final) : deeds.IsChain (Deed.HandsOn r) := by
  cases h with
  | once first => exact first.handsOn
  | stranded first =>
    obtain ⟨t, h, rfl⟩ := first.of_ok
    simp [Deed.HandsOn]
  | twice first _ _ second =>
    obtain ⟨t, h, rfl⟩ := first.of_ok
    cases second <;> simp [Deed.HandsOn]

/-- It decides. -/
theorem Walk.decides (h : Walk c r s deeds result final) :
    ∃ last, deeds.getLast? = some last ∧ last.Decides result := by
  cases h with
  | once first => exact first.decides
  | @stranded _ _ e =>
    refine ⟨.obtain .fresh (.error e), ?_, .unready _ _⟩
    rw [List.getLast?_append]
    rfl
  | twice _ _ _ second =>
    obtain ⟨last, final, decides⟩ := second.decides
    exact ⟨last, by rw [List.getLast?_append, final]; rfl, decides⟩

/-- **A fresh token is asked for exactly after a refusal**, if policy and body permit. -/
theorem Walk.renews (h : Walk c r s deeds result final) :
    Stage.obtain .fresh ∈ deeds.map Deed.stage ↔
      ∃ a response, deeds[2]? = some (.send a (.ok response)) ∧ c.Retries r response := by
  cases h with
  | once first enough =>
    constructor
    · -- an attempt alone is content with a current token
      intro fresh
      exact absurd (first.stages.subset fresh) (by decide)
    · rintro ⟨a, response, third, again⟩
      cases first with
      | unready | unsigned => cases third
      | sent =>
        cases third
        exact absurd again (enough response rfl)
  | stranded first again | twice first again =>
    obtain ⟨t, h, rfl⟩ := first.of_ok
    simp only [List.map_append, List.mem_append, List.map_cons, List.mem_cons]
    exact ⟨fun _ => ⟨_, _, rfl, again⟩, fun _ => by simp [Deed.stage]⟩

/-- **There is a second sending exactly if everything before it went well.** -/
theorem Walk.resends (h : Walk c r s deeds result final) :
    (sends deeds).length = 2 ↔ c.Resends r s := by
  -- what is run twice from one session ends twice the same, so each way excludes the others
  cases h with
  | @once _ outcome next first enough =>
    constructor
    · intro two
      rcases first.sends_eq with ⟨e, mid, -, none⟩ | ⟨token, h, mid, -, -, one⟩
      · rw [none] at two
        cases two
      · rw [one] at two
        cases two
    · rintro ⟨response, mid, t, ready, h, next, ran, again, -⟩
      rw [first.run] at ran
      cases ran
      exact absurd again (enough response rfl)
  | stranded first again token =>
    obtain ⟨_, h, -, one⟩ := first.sends_of_ok
    constructor
    · intro two
      rw [sends_append, one] at two
      cases two
    · rintro ⟨response, mid, t, ready, h, next, ran, -, renewed, -⟩
      rw [first.run] at ran
      cases ran
      rw [token] at renewed
      cases renewed
  | twice first again token second =>
    obtain ⟨_, h, -, one⟩ := first.sends_of_ok
    rw [sends_append, sends_append, one]
    rcases second.sends_eq with ⟨e, mid, failed, none⟩ | ⟨_, h', mid, -, signed, more⟩
    · constructor
      · intro two
        rw [none] at two
        cases two
      · rintro ⟨response, _, t, ready, h, next, ran, -, renewed, signed⟩
        rw [first.run] at ran
        cases ran
        rw [token] at renewed
        cases renewed
        rw [failed] at signed
        cases signed
    · constructor
      · intro _
        exact ⟨_, _, _, _, _, _, first.run, again, token, signed⟩
      · intro _
        rw [more]
        rfl

/-- Headers that carry some token. -/
def Credentials.Signs (c : Credentials) (h : Headers) : Prop :=
  ∃ token, bearerHeaders token c.quotaProject = .ok h

/-- What is sent is the request with headers of some token: once, or twice after a response. -/
theorem Walk.sends_eq (h : Walk c r s deeds result final) :
    ∃ signed : List Headers, signed.length ≤ 2 ∧ sends deeds = signed.map (addHeaders r) ∧
      (∀ h ∈ signed, c.Signs h) ∧ (signed.length = 2 → s.world.network.hears r = true) := by
  cases h with
  | once first =>
    rcases first.sends_eq with ⟨_, _, -, none⟩ | ⟨token, h, _, made, -, one⟩
    · exact ⟨[], by simp, none, List.forall_mem_nil _, by simp⟩
    · exact ⟨[h], by simp, one, List.forall_mem_singleton.mpr ⟨token, made⟩, by simp⟩
  | stranded first =>
    obtain ⟨token, h, made, one⟩ := first.sends_of_ok
    refine ⟨[h], by simp, ?_, List.forall_mem_singleton.mpr ⟨token, made⟩, by simp⟩
    rw [sends_append, one]
    rfl
  | twice first _ _ second =>
    obtain ⟨token, h, made, one⟩ := first.sends_of_ok
    rw [sends_append, sends_append, one]
    rcases second.sends_eq with ⟨_, _, -, none⟩ | ⟨other, h', _, made', -, more⟩
    · refine ⟨[h], by simp, ?_, List.forall_mem_singleton.mpr ⟨token, made⟩, by simp⟩
      rw [none]
      rfl
    · -- only here are there two, and the first of them has been answered
      refine ⟨[h, h'], by simp, ?_, List.forall_mem_cons.mpr ⟨⟨token, made⟩, ?_⟩,
        fun _ => first.heard⟩
      · rw [more]
        rfl
      · exact List.forall_mem_singleton.mpr ⟨other, made'⟩

/-! ## §3. Every request. -/

/-- **How every request goes.** -/
structure KeepsCourse (c : Credentials) (r : Request) (s : Session) (deeds : List Deed)
    (result : Except AuthError Response) (final : Session) : Prop where
  /-- Each step is carried out where the one before has led, and the last one leads to the end. -/
  carried : Course c s deeds final
  /-- The steps come in their order. -/
  inOrder : deeds.map Deed.stage <+: fullCourse
  /-- Each works with what the one before has brought. -/
  handedOn : deeds.IsChain (Deed.HandsOn r)
  /-- All but the last went well: whatever fails, nothing is done after it. -/
  wentWell : ∀ d ∈ deeds.dropLast, d.succeeded = true
  /-- The last one decides what the caller is told: the error of the step, the response if its status
  is 2xx, or the error that is made of the response. -/
  decided : ∃ last, deeds.getLast? = some last ∧ last.Decides result
  /-- A fresh token is asked for exactly after a refusal, if policy and body permit. -/
  renewed : Stage.obtain .fresh ∈ deeds.map Deed.stage ↔
    ∃ a response, deeds[2]? = some (.send a (.ok response)) ∧ c.Retries r response
  /-- There are two sendings at most. -/
  atMostTwice : (sends deeds).length ≤ 2
  /-- There is a second one exactly if everything before it went well. -/
  resent : (sends deeds).length = 2 ↔ c.Resends r s
  /-- What is sent is the caller's request. -/
  carries : ∀ a ∈ sends deeds, a.Carries r
  /-- The second time it is the same but for the token, and entirely if the caller has set that. -/
  alike : ∀ a b, sends deeds = [a, b] →
    ∃ v, b = if r.headers.contains authorizationName then a else a.reauthorized v
  /-- What is sent is what arrives, if anybody hears it. -/
  arrived : asked (s.arrivals final) = if s.world.network.hears r then sends deeds else []
  /-- What nobody hears is not sent a second time. -/
  unheard : s.world.network.hears r = false → (sends deeds).length ≤ 1

theorem Walk.keepsCourse (h : Walk c r s deeds result final) :
    KeepsCourse c r s deeds result final := by
  obtain ⟨signed, atMostTwice, sent, made, heard⟩ := h.sends_eq
  have carries : ∀ a ∈ sends deeds, a.Carries r := by
    intro a ha
    rw [sent] at ha
    obtain ⟨h', member, rfl⟩ := List.mem_map.mp ha
    obtain ⟨token, ok⟩ := made h' member
    exact addHeaders_carries r (bearerHeaders_nodup ok)
  refine ⟨h.course, h.stages, h.handsOn, h.wentWell, h.decides, h.renews, ?_, h.resends, carries,
    ?_, ?_, ?_⟩
  · rw [sent, List.length_map]
    exact atMostTwice
  · intro a b two
    rw [two] at sent
    match signed, sent with
    | [h₁, h₂], sent =>
      cases sent
      obtain ⟨token, ok⟩ := made h₁ (by simp)
      obtain ⟨other, ok'⟩ := made h₂ (by simp)
      obtain ⟨v, -, same⟩ := addHeaders_alike r ok ok'
      exact ⟨v, same⟩
  · obtain ⟨new, received, arrived⟩ := h.course.received
    -- all that is sent goes to the URL of the request
    have together : ∀ a ∈ sends deeds, s.world.network.hears a = s.world.network.hears r := by
      intro a ha
      unfold Network.hears
      rw [(carries a ha).url]
    rw [received.arrivals_eq, arrived]
    cases hears : s.world.network.hears r with
    | true =>
      rw [if_pos rfl, List.filter_eq_self]
      intro a ha
      rw [together a ha, hears]
    | false =>
      rw [if_neg Bool.false_ne_true, List.filter_eq_nil_iff]
      intro a ha
      rw [together a ha, hears]
      exact Bool.false_ne_true
  · intro unheard
    by_cases two : signed.length = 2
    · rw [heard two] at unheard
      cases unheard
    · rw [sent, List.length_map]
      omega

end Walks

/-- **Every request keeps its course**, whatever it is, whatever the cache holds and whatever
servers, files and the application answer. -/
theorem Credentials.request_keeps_course (c : Credentials) (r : Request) (s : Session) :
    ∃ deeds, KeepsCourse c r s deeds ((c.request r).run s).1 ((c.request r).run s).2 := by
  obtain ⟨deeds, walk⟩ := walk_of_run c r s
  exact ⟨deeds, walk.keepsCourse⟩

end WorkloadIdentity
