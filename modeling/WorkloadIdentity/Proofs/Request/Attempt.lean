/-
  WorkloadIdentity.Proofs.Request.Attempt ──── **THE STEPS OF ONE ATTEMPT.**

  A request with a token is a token, headers made of it and a sending.  Steps are written down with
  how they ended, and a list of steps is a course if each of them, carried out where the one before
  has led, ends as it says.  What the caller is to be told after the last step is written down
  without the program: the error of the step, a response of a 2xx status, or an error that tells of
  any other response.

  Main results:
    * `Course.received` — the application's requests that arrive are those that a course sends
    * `attempt_of_run`, `Attempt.run` — sending with a token is one of three courses
    * `Attempt.decides` — the last step of an attempt decides what the caller is told
    * `Attempt.received` — what arrives by an attempt, the requests for its token included
-/
import WorkloadIdentity.Proofs.Error.Classification
import WorkloadIdentity.Proofs.Request.Errands
import Mathlib.Data.List.Chain

namespace WorkloadIdentity

open Credentials (addHeaders)

/-! ## §1. Steps. -/

/-- A step on the way of a request, and how it ended. -/
inductive Deed where
  /-- A token is asked for. -/
  | obtain (d : Demand) (outcome : Outcome)
  /-- Headers are made of a token. -/
  | sign (t : AccessToken) (outcome : Except AuthError Headers)
  /-- A request is sent. -/
  | send (r : Request) (outcome : Except AuthError Response)
  /-- A refusal is logged. -/
  | log (refusal : Status)

/-- What a step does, whatever comes of it. -/
inductive Stage where
  /-- It asks for a token. -/
  | obtain (d : Demand)
  /-- It makes headers. -/
  | sign
  /-- It sends a request. -/
  | send
  /-- It logs a refusal. -/
  | log
  deriving DecidableEq

namespace Deed

/-- What a step does. -/
def stage : Deed → Stage
  | .obtain d _ => .obtain d
  | .sign _ _ => .sign
  | .send _ _ => .send
  | .log _ => .log

/-- Whether a step brought what it was for; any response will do. -/
def succeeded : Deed → Bool
  | .obtain _ (.error _) | .sign _ (.error _) | .send _ (.error _) => false
  | _ => true

/-- The request that a step sends. -/
def sent? : Deed → Option Request
  | .send r _ => some r
  | _ => none

end Deed

/-- **An error is made of a response** to the application's request: it tells of the status, and of
the body as far as that arrives. -/
structure AuthError.MadeOf (e : AuthError) (response : Response) : Prop where
  /-- It is the one error that the response makes. -/
  made : e = .ofResponse "failed to send authenticated request" response
  /-- It tells of the status, of the hope and of the answer. -/
  tells : e.TellsOf response
  /-- A body that arrives whole is classified. -/
  whole : response.complete = true → e.Classifies response.raw
  /-- A body that is cut off has failed to be read. -/
  cutOff : response.complete = false →
    e.family = .transport ∧ ∃ text, e.cause? = some text ∧
      text.message = "error decoding response body for url (" ++ response.url.text ++ ")"

/-- **What the caller is told after a step**, if it is the last one. -/
inductive Deed.Decides : Deed → Except AuthError Response → Prop where
  /-- There is no token. -/
  | unready (d : Demand) (e : AuthError) : Decides (.obtain d (.error e)) (.error e)
  /-- There are no headers. -/
  | unsigned (t : AccessToken) (e : AuthError) : Decides (.sign t (.error e)) (.error e)
  /-- There is no response. -/
  | unanswered (r : Request) (e : AuthError) : Decides (.send r (.error e)) (.error e)
  /-- There is a response of a 2xx status. -/
  | granted (r : Request) {response : Response}
      (success : 200 ≤ response.raw.status ∧ response.raw.status ≤ 299) :
      Decides (.send r (.ok response)) (.ok response)
  /-- There is a response of another status. -/
  | refused (r : Request) {response : Response} {e : AuthError}
      (failure : ¬ (200 ≤ response.raw.status ∧ response.raw.status ≤ 299))
      (made : e.MadeOf response) : Decides (.send r (.ok response)) (.error e)

/-- The requests that are sent, in order. -/
def sends (deeds : List Deed) : List Request := deeds.filterMap Deed.sent?

/-- A session in whose log a refusal has been noted. -/
def Session.noted (s : Session) (refusal : Status) : Session :=
  { s with world := s.world.note (Credentials.refusalRecord refusal) }

/-- A step, carried out in a session, ends so and leads to another session. -/
inductive Deed.Leads (c : Credentials) (s : Session) : Deed → Session → Prop where
  /-- A token is asked for. -/
  | obtain {d : Demand} {outcome : Outcome} {next : Session}
      (ran : (c.obtain d).run s = (outcome, next)) : Leads c s (.obtain d outcome) next
  /-- Headers are made, which touches nothing. -/
  | sign (t : AccessToken) : Leads c s (.sign t (bearerHeaders t.token c.quotaProject)) s
  /-- A request is sent. -/
  | send {r : Request} {outcome : Except AuthError Response} {next : Session}
      (ran : (Use.outside (Act.send .target r)).run s = (outcome, next)) :
      Leads c s (.send r outcome) next
  /-- A refusal is logged. -/
  | log (refusal : Status) : Leads c s (.log refusal) (s.noted refusal)

/-- **A course**: each step is carried out where the one before has led. -/
inductive Course (c : Credentials) : Session → List Deed → Session → Prop where
  /-- No steps. -/
  | nil (s : Session) : Course c s [] s
  /-- A step and those after it. -/
  | cons {s mid last : Session} {d : Deed} {rest : List Deed} (step : d.Leads c s mid)
      (steps : Course c mid rest last) : Course c s (d :: rest) last

theorem Course.append {c : Credentials} {s mid last : Session} {deeds more : List Deed}
    (first : Course c s deeds mid) (second : Course c mid more last) :
    Course c s (deeds ++ more) last := by
  induction first with
  | nil => exact second
  | cons step _ ih => exact .cons step (ih second)

/-! ## §2. What the caller is told. -/

theorem isSuccess_iff (status : Status) : status.isSuccess = true ↔ 200 ≤ status ∧ status ≤ 299 := by
  unfold Status.isSuccess
  rw [Bool.and_eq_true, decide_eq_true_eq, decide_eq_true_eq]
  exact Iff.rfl.and Nat.lt_succ_iff

theorem AuthError.ofResponse_madeOf (response : Response) :
    (ofResponse Errand.target.doing response).MadeOf response where
  made := rfl
  tells := ofResponse_tellsOf _ response
  whole whole := by
    rw [ofResponse_whole _ whole]
    exact (ofAnswer_classifies _ response.raw).1
  cutOff cutOff := by
    unfold ofResponse Response.read
    rw [cutOff, if_neg Bool.false_ne_true]
    exact ⟨rfl, _, rfl, rfl⟩

/-- What is told of a sending is decided by its outcome. -/
theorem decides_send (r : Request) (outcome : Except AuthError Response) :
    (Deed.send r outcome).Decides (outcome.bind Credentials.successful) := by
  cases outcome with
  | error e => exact .unanswered r e
  | ok response =>
    show Deed.Decides _ (Credentials.successful response)
    unfold Credentials.successful
    split
    · rename_i success
      exact .granted r ((isSuccess_iff _).mp success)
    · rename_i failure
      exact .refused r (mt (isSuccess_iff _).mpr failure) (AuthError.ofResponse_madeOf response)

/-! ## §3. What arrives. -/

/-- All that arrived from one session to another, in order. -/
def Session.arrivals (before after : Session) : List Arrival :=
  (after.world.network.arrived.take
    (after.world.network.arrived.length - before.world.network.arrived.length)).reverse

theorem Session.arrivals_eq {new : List Arrival} {before after : Session}
    (h : after.world.network.arrived = new.reverse ++ before.world.network.arrived) :
    before.arrivals after = new := World.arrivals_eq h

theorem World.Received.arrivals_eq {new : List Arrival} {before after : Session}
    (h : World.Received new before.world after.world) : before.arrivals after = new :=
  Session.arrivals_eq h.arrived

/-- What the application asks, among all that arrives. -/
def asked (arrivals : List Arrival) : List Request :=
  (arrivals.filter fun a => a.errand = .target).map (·.request)

theorem asked_append (new later : List Arrival) :
    asked (new ++ later) = asked new ++ asked later := by
  simp [asked]

theorem asked_target (requests : List Request) :
    asked (requests.map (⟨.target, ·⟩)) = requests := by
  unfold asked
  rw [List.filter_eq_self.mpr (by simp), List.map_map]
  exact List.map_id _

theorem asked_cons_target (a : Request) (later : List Arrival) :
    asked (⟨.target, a⟩ :: later) = a :: asked later := by
  simp [asked]

/-- None of the errands for a token is the application's. -/
theorem asked_of_plan {c : Credentials} {new : List Arrival}
    (beginning : new.map (·.errand) <+: c.plan) : asked new = [] := by
  unfold asked
  rw [List.map_eq_nil_iff, List.filter_eq_nil_iff]
  intro a ha hit
  have planned := beginning.subset (List.mem_map_of_mem (f := (·.errand)) ha)
  rw [of_decide_eq_true hit] at planned
  exact c.target_not_mem_plan planned

/-- Whether a request gets through to somebody. -/
def Network.hears (n : Network) (r : Request) : Bool := r.url.isHttp && n.listening

theorem Network.hears_congr {n n' : Network} (same : n'.listening = n.listening) :
    n'.hears = n.hears := by
  funext r
  unfold hears
  rw [same]

/-- **What is sent arrives exactly if somebody hears it.** -/
theorem sent_received {errand : Errand} {r : Request} {w next : World}
    {sent : Except AuthError Response} (ran : (Act.send errand r).run w = (sent, next)) :
    World.Received ([(⟨errand, r⟩ : Arrival)].filter (w.network.hears ·.request)) w next := by
  have received := Act.send_received errand r w
  rw [ran] at received
  have same : (if r.url.isHttp && w.network.listening then [(⟨errand, r⟩ : Arrival)] else [])
      = [(⟨errand, r⟩ : Arrival)].filter (w.network.hears ·.request) := by
    show (if w.network.hears r then _ else _) = _
    cases heard : w.network.hears r <;> simp [heard]
  rw [same] at received
  exact received

theorem run_outside {α : Type} (act : Act α) (s : Session) :
    (Use.outside act).run s = ((act.run s.world).1, { s with world := (act.run s.world).2 }) := by
  have looked : (getThe Session : Use Session).run s = (.ok s, s) := rfl
  unfold Use.outside
  rw [run_bind_ok looked]
  rcases act.run s.world with ⟨result, world⟩
  cases result <;> rfl

/-- So it is with what the application asks. -/
theorem send_received (r : Request) (s : Session) :
    World.Received (([r].filter s.world.network.hears).map (⟨.target, ·⟩)) s.world
      ((Use.outside (Act.send .target r)).run s).2.world := by
  rw [run_outside]
  have received : World.Received _ s.world _ := sent_received (rfl : (Act.send .target r).run s.world = _)
  have same : [(⟨.target, r⟩ : Arrival)].filter (s.world.network.hears ·.request)
      = ([r].filter s.world.network.hears).map (⟨.target, ·⟩) :=
    List.filter_map (f := (⟨.target, ·⟩ : Request → Arrival)) (l := [r])
  rw [same] at received
  exact received

/-- **What arrives by a step.** -/
theorem Deed.Leads.received {c : Credentials} {s next : Session} {d : Deed} (h : d.Leads c s next) :
    ∃ new, World.Received new s.world next.world ∧
      asked new = d.sent?.toList.filter s.world.network.hears := by
  cases h with
  | @obtain demand outcome _ ran =>
    obtain ⟨new, received, beginning, -⟩ := c.obtain_received demand s
    rw [ran] at received
    exact ⟨new, received, asked_of_plan beginning⟩
  | sign t => exact ⟨[], World.received_nil rfl rfl, rfl⟩
  | @send r outcome _ ran =>
    have received := send_received r s
    rw [ran] at received
    refine ⟨_, received, ?_⟩
    show asked (([r].filter s.world.network.hears).map (⟨.target, ·⟩)) = _
    exact asked_target _
  | log refusal => exact ⟨[], World.received_nil rfl rfl, rfl⟩

/-- **What the application asks along a course**: exactly the requests that the course sends, as
far as anybody hears them. -/
theorem Course.received {c : Credentials} {s last : Session} {deeds : List Deed}
    (h : Course c s deeds last) :
    ∃ new, World.Received new s.world last.world ∧
      asked new = (sends deeds).filter s.world.network.hears := by
  induction h with
  | nil s => exact ⟨[], World.received_nil rfl rfl, rfl⟩
  | @cons s mid last d rest step _ ih =>
    obtain ⟨new, received, now⟩ := step.received
    obtain ⟨more, received', later⟩ := ih
    have same := Network.hears_congr received.listening
    refine ⟨new ++ more, received.trans received', ?_⟩
    rw [asked_append, now, later, same, ← List.filter_append]
    unfold sends
    cases hd : d.sent? <;> simp [hd]

/-! ## §4. One attempt. -/

/-- What sending with a token comes to, and by which steps. -/
inductive Attempt (c : Credentials) (r : Request) (s : Session) :
    List Deed → Except AuthError Response → Session → Prop where
  /-- There is no token. -/
  | unready {e : AuthError} {next : Session}
      (token : (c.obtain .current).run s = (.error e, next)) :
      Attempt c r s [.obtain .current (.error e)] (.error e) next
  /-- There are no headers. -/
  | unsigned {t : AccessToken} {e : AuthError} {next : Session}
      (token : (c.obtain .current).run s = (.ok t, next))
      (headers : bearerHeaders t.token c.quotaProject = .error e) :
      Attempt c r s [.obtain .current (.ok t), .sign t (.error e)] (.error e) next
  /-- The request is sent. -/
  | sent {t : AccessToken} {h : Headers} {outcome : Except AuthError Response} {mid next : Session}
      (token : (c.obtain .current).run s = (.ok t, mid))
      (headers : bearerHeaders t.token c.quotaProject = .ok h)
      (ran : (Use.outside (Act.send .target (addHeaders r h))).run mid = (outcome, next)) :
      Attempt c r s
        [.obtain .current (.ok t), .sign t (.ok h), .send (addHeaders r h) outcome] outcome next

theorem run_headers_ok {c : Credentials} {s next : Session} {t : AccessToken}
    {made : Except AuthError Headers} (token : (c.obtain .current).run s = (.ok t, next))
    (headers : bearerHeaders t.token c.quotaProject = made) : c.headers.run s = (made, next) := by
  unfold Credentials.headers Credentials.accessToken Credentials.sign
  rw [run_bind_ok token, headers]
  cases made <;> rfl

theorem run_headers_error {c : Credentials} {s next : Session} {e : AuthError}
    (token : (c.obtain .current).run s = (.error e, next)) :
    c.headers.run s = (.error e, next) := by
  unfold Credentials.headers Credentials.accessToken
  exact run_bind_error token

theorem run_sendWithToken_ok {c : Credentials} {r : Request} {s next : Session} {h : Headers}
    (signed : c.headers.run s = (.ok h, next)) :
    (c.sendWithToken r).run s = (Use.outside (Act.send .target (addHeaders r h))).run next := by
  unfold Credentials.sendWithToken
  exact run_bind_ok signed

theorem run_sendWithToken_error {c : Credentials} {r : Request} {s next : Session} {e : AuthError}
    (unsigned : c.headers.run s = (.error e, next)) :
    (c.sendWithToken r).run s = (.error e, next) := by
  unfold Credentials.sendWithToken
  exact run_bind_error unsigned

/-- **Sending with a token is one of three courses.** -/
theorem attempt_of_run {c : Credentials} {r : Request} {s next : Session}
    {outcome : Except AuthError Response} (ran : (c.sendWithToken r).run s = (outcome, next)) :
    ∃ deeds, Attempt c r s deeds outcome next := by
  rcases token : (c.obtain .current).run s with ⟨obtained, mid⟩
  cases obtained with
  | error e =>
    rw [run_sendWithToken_error (run_headers_error token)] at ran
    cases ran
    exact ⟨_, .unready token⟩
  | ok t =>
    cases headers : bearerHeaders t.token c.quotaProject with
    | error e =>
      rw [run_sendWithToken_error (run_headers_ok token headers)] at ran
      cases ran
      exact ⟨_, .unsigned token headers⟩
    | ok h =>
      rw [run_sendWithToken_ok (run_headers_ok token headers)] at ran
      exact ⟨_, .sent token headers ran⟩

section Attempts

variable {c : Credentials} {r : Request} {s next : Session} {deeds : List Deed}
  {outcome : Except AuthError Response}

/-- Each of them is what sending with a token does. -/
theorem Attempt.run (h : Attempt c r s deeds outcome next) :
    (c.sendWithToken r).run s = (outcome, next) := by
  cases h with
  | unready token => exact run_sendWithToken_error (run_headers_error token)
  | unsigned token headers => exact run_sendWithToken_error (run_headers_ok token headers)
  | sent token headers ran =>
    rw [run_sendWithToken_ok (run_headers_ok token headers)]
    exact ran

theorem Attempt.course (h : Attempt c r s deeds outcome next) : Course c s deeds next := by
  cases h with
  | unready token => exact .cons (.obtain token) (.nil _)
  | unsigned token headers =>
    refine .cons (.obtain token) (.cons ?_ (.nil _))
    rw [← headers]
    exact .sign _
  | sent token headers ran =>
    refine .cons (.obtain token) (.cons ?_ (.cons (.send ran) (.nil _)))
    rw [← headers]
    exact .sign _

/-- The steps of an attempt, in their order. -/
def attemptStages : List Stage := [.obtain .current, .sign, .send]

theorem Attempt.stages (h : Attempt c r s deeds outcome next) :
    deeds.map Deed.stage <+: attemptStages := by
  cases h with
  | unready => exact ⟨[.sign, .send], rfl⟩
  | unsigned => exact ⟨[.send], rfl⟩
  | sent => exact ⟨[], rfl⟩

/-- An attempt that brings a response has gone its whole way. -/
theorem Attempt.of_ok {response : Response} (h : Attempt c r s deeds (.ok response) next) :
    ∃ t h, deeds =
      [.obtain .current (.ok t), .sign t (.ok h), .send (addHeaders r h) (.ok response)] := by
  cases h with
  | sent => exact ⟨_, _, rfl⟩

/-- Headers are made of the token that was obtained, and added to the caller's request. -/
def Deed.HandsOn (r : Request) : Deed → Deed → Prop
  | before, .sign t _ => before = .obtain .current (.ok t)
  | before, .send a _ => ∃ t h, before = .sign t (.ok h) ∧ a = addHeaders r h
  | _, _ => True

theorem Attempt.handsOn (h : Attempt c r s deeds outcome next) :
    deeds.IsChain (Deed.HandsOn r) := by
  cases h <;> simp [Deed.HandsOn]

theorem Attempt.allWell {response : Response} (h : Attempt c r s deeds (.ok response) next) :
    ∀ d ∈ deeds, d.succeeded = true := by
  cases h with
  | sent => simp [Deed.succeeded]

theorem Attempt.wentWell (h : Attempt c r s deeds outcome next) :
    ∀ d ∈ deeds.dropLast, d.succeeded = true := by
  cases h <;> simp [Deed.succeeded]

/-- The last step of an attempt decides what the caller is told. -/
theorem Attempt.decides (h : Attempt c r s deeds outcome next) :
    ∃ last, deeds.getLast? = some last ∧ last.Decides (outcome.bind Credentials.successful) := by
  cases h with
  | unready => exact ⟨_, rfl, .unready _ _⟩
  | unsigned => exact ⟨_, rfl, .unsigned _ _⟩
  | sent => exact ⟨_, rfl, decides_send _ _⟩

theorem Attempt.ne_nil (h : Attempt c r s deeds outcome next) : deeds ≠ [] := by
  cases h <;> exact List.cons_ne_nil _ _

/-- An attempt sends the request exactly if there are headers for it. -/
theorem Attempt.sends_eq (h : Attempt c r s deeds outcome next) :
    (∃ e mid, c.headers.run s = (.error e, mid) ∧ sends deeds = []) ∨
    (∃ token h mid, bearerHeaders token c.quotaProject = .ok h ∧
      c.headers.run s = (.ok h, mid) ∧ sends deeds = [addHeaders r h]) := by
  cases h with
  | unready token => exact .inl ⟨_, _, run_headers_error token, rfl⟩
  | unsigned token headers => exact .inl ⟨_, _, run_headers_ok token headers, rfl⟩
  | sent token headers ran => exact .inr ⟨_, _, _, headers, run_headers_ok token headers, rfl⟩

theorem Attempt.sends_of_ok {response : Response} (h : Attempt c r s deeds (.ok response) next) :
    ∃ token h, bearerHeaders token c.quotaProject = .ok h ∧ sends deeds = [addHeaders r h] := by
  cases h with
  | sent token headers ran => exact ⟨_, _, headers, rfl⟩

/-- Whoever hears the request hears it signed. -/
theorem Attempt.hears_sent (h : Attempt c r s deeds outcome next) (n : Network) :
    ∀ a ∈ sends deeds, n.hears a = n.hears r := by
  intro a ha
  rcases h.sends_eq with ⟨_, _, -, none⟩ | ⟨_, _, _, -, -, sent⟩
  · rw [none] at ha
    cases ha
  · rw [sent] at ha
    cases List.mem_singleton.mp ha
    rfl

/-- **What arrives by an attempt**: what it takes to have a token, and the request if it is sent and
heard.  A usable token takes nothing; without one, nothing is sent before all of the plan has
arrived. -/
theorem Attempt.received (h : Attempt c r s deeds outcome next) :
    ∃ fetched, World.Received
        (fetched ++ ((sends deeds).filter s.world.network.hears).map (⟨.target, ·⟩))
        s.world next.world ∧
      fetched.map (·.errand) <+: c.plan ∧
      (∀ t, s.cache.usable? s.world.clock.now = some t → fetched = []) ∧
      (s.cache.usable? s.world.clock.now = none → sends deeds ≠ [] →
        fetched.map (·.errand) = c.plan) := by
  obtain ⟨fetched, received, beginning, hit, whole⟩ := c.obtain_received .current s
  refine ⟨fetched, ?_, beginning, hit rfl, ?_⟩
  · cases h with
    | unready token | unsigned token =>
      rw [token] at received
      rw [← List.append_nil fetched] at received
      exact received
    | @sent t h outcome mid next token headers ran =>
      -- the request comes after all that the token took, and meets the same listeners
      rw [token] at received
      have sent := send_received (addHeaders r h) mid
      rw [ran, Network.hears_congr received.listening] at sent
      exact received.trans sent
  · intro stale some
    cases h with
    | unready => exact absurd rfl some
    | unsigned => exact absurd rfl some
    | sent token => exact whole (fun _ => stale) _ (congrArg Prod.fst token)

/-- Whoever has a response has been heard. -/
theorem Attempt.heard {response : Response} (h : Attempt c r s deeds (.ok response) next) :
    s.world.network.hears r = true := by
  cases h with
  | sent token headers ran =>
    obtain ⟨new, received, -⟩ := c.obtain_received .current s
    rw [token] at received
    rw [run_outside] at ran
    have heard := Act.heard_of_response (congrArg Prod.fst ran)
    rw [received.listening] at heard
    exact heard

end Attempts

end WorkloadIdentity
