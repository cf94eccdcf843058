/-
  WorkloadIdentity.Proofs.Subject.Emptiness ──── **WHERE AN EMPTY SUBJECT TOKEN COMES FROM.**

  What a file or a URL contains is looked through by a format, and no format finds an empty token.
  What the application brings is taken as it is.  So an empty subject token comes from the
  application or from nowhere; and an exchange carries what was retrieved for it, whatever else has
  happened before.

  The run is followed by an invariant of the world: all exchanges that have arrived carry a subject
  token, and if it is empty, the application had it to bring.

  Main results:
    * `SubjectSource.retrieve_empty_iff` — which retrievals bring an empty token
    * `Credentials.fetch_carries`        — an exchange carries what was retrieved
    * `Credentials.empty_subject_iff`    — when an empty token is sent, in a fetch and in a run
-/
import WorkloadIdentity.Proofs.Credentials.Invariants
import WorkloadIdentity.Proofs.Credentials.Journey
import WorkloadIdentity.Proofs.Sts.Posted

namespace WorkloadIdentity

/-! ## §1. What is retrieved. -/

/-- **No format finds an empty token.** -/
theorem SourceFormat.extract_ne_empty (f : SourceFormat) (content origin : String) :
    f.extract content origin ≠ .ok "" := by
  intro found
  unfold extract at found
  cases f with
  | text =>
    dsimp only at found
    split at found
    · cases found
    · rename_i full
      cases found
      exact full rfl
  | json name =>
    dsimp only at found
    split at found
    · cases found
    · split at found
      · split at found
        · cases found
        · rename_i full
          cases found
          exact full rfl
      · cases found

namespace SubjectSource

/-- What is looked through by a format is not empty. -/
theorem extracted_ne_empty {act : Act String} (f : SourceFormat) (origin : String) (w : World) :
    ((act >>= fun content => Act.lift (f.extract content origin)).run w).1 ≠ .ok "" := by
  intro found
  rcases ran : act.run w with ⟨result, mid⟩
  cases result with
  | error e =>
    rw [run_bind_error ran] at found
    cases found
  | ok content =>
    rw [run_bind_ok ran, Act.run_lift] at found
    exact f.extract_ne_empty content origin found

/-- **A retrieval brings an empty token exactly if the application does.** -/
theorem retrieve_empty_iff (source : SubjectSource) (w : World) :
    (source.retrieve.run w).1 = .ok "" ↔
      source = .application ∧ w.subjects.head? = some (.token "") := by
  cases source with
  | file path format =>
    exact ⟨fun found => absurd found (extracted_ne_empty format path w), nofun⟩
  | url address headers format =>
    exact ⟨fun found => absurd found (extracted_ne_empty format address w), nofun⟩
  | application =>
    show (askApplication.run w).1 = .ok "" ↔ _
    rw [run_askApplication]
    cases w.subjects with
    | nil => exact ⟨nofun, nofun⟩
    | cons reply later =>
      cases reply with
      | token value => simp
      | failure transient text => exact ⟨nofun, nofun⟩

end SubjectSource

/-! ## §2. What an exchange carries. -/

/-- **An exchange carries a subject token**: a strict receiver reads this one, and no other. -/
def Arrival.Carries (a : Arrival) (subjectToken : String) : Prop :=
  a.errand = .exchange ∧
    (Form.read? a.request.body.content).map (Form.valuesOf "subject_token") = some [subjectToken]

/-- Requests to a token endpoint arrive. -/
def Sts.Reaches (s : Sts) (n : Network) : Prop :=
  ∃ u, Url.parse s.url = .ok u ∧ u.isHttp = true ∧ n.listening = true

theorem Arrival.Carries.unique {a : Arrival} {s t : String} (h : a.Carries s)
    (h' : a.Carries t) : s = t := by
  have same := h.2.symm.trans h'.2
  cases same
  rfl

/-- **All that arrives of an exchange carries the subject token of its form**, and something arrives
exactly if the endpoint can be reached. -/
theorem Sts.exchange_carries (s : Sts) (f : ExchangeForm) (caller : Headers) (w : World) :
    ∃ new, World.Received new w ((s.exchange f caller).run w).2 ∧
      (∀ a ∈ new, a.Carries f.subjectToken ∧ s.Reaches w.network) ∧
      (s.Reaches w.network → ∃ a ∈ new, a.Carries f.subjectToken) := by
  obtain ⟨posted, received, whether, what⟩ := s.exists_posted f caller w
  have carries (r : Request) (sent : r ∈ posted) :
      Arrival.Carries ⟨.exchange, r⟩ f.subjectToken := by
    refine ⟨rfl, ?_⟩
    obtain ⟨-, -, -, body⟩ := what r sent
    have field : ("subject_token", some f.subjectToken)
        ∈ f.fields (f.options.map Json.render) s.authentication := by
      simp [ExchangeForm.fields]
    show (Form.read? r.body.content).map _ = _
    rw [body]
    exact s.valuesOf_body f field
  refine ⟨_, received, fun a member => ?_, ?_⟩
  · obtain ⟨inForm, heard⟩ := List.mem_filter.mp member
    obtain ⟨r, sent, rfl⟩ := List.mem_map.mp inForm
    obtain ⟨-, url, -, -⟩ := what r (Option.mem_toList.mp sent)
    obtain ⟨http, listening⟩ := Bool.and_eq_true_iff.mp heard
    exact ⟨carries r (Option.mem_toList.mp sent), r.url, url, http, listening⟩
  · rintro ⟨u, parsed, http, listening⟩
    obtain ⟨r, sent⟩ := Option.isSome_iff_exists.mp (whether.mpr ⟨u, parsed⟩)
    obtain ⟨-, url, -, -⟩ := what r sent
    cases url.symm.trans parsed
    refine ⟨⟨.exchange, r⟩, List.mem_filter.mpr ⟨?_, ?_⟩, carries r sent⟩
    · exact List.mem_map.mpr ⟨r, Option.mem_toList.mpr sent, rfl⟩
    · exact Bool.and_eq_true_iff.mpr ⟨http, listening⟩

/-- What is not planned does not arrive. -/
theorem errand_ne_of_plan {plan : List Errand} {new : List Arrival} {errand : Errand}
    (beginning : new.map (·.errand) <+: plan) (unplanned : errand ∉ plan) :
    ∀ a ∈ new, a.errand ≠ errand := by
  rintro a member rfl
  exact unplanned (beginning.subset (List.mem_map_of_mem member))

theorem SubjectSource.exchange_not_mem_plan (source : SubjectSource) :
    .exchange ∉ source.plan := by
  cases source <;> simp [plan]

namespace Credentials

variable {c : Credentials}

/-- What follows an exchange is no other exchange. -/
theorem received_after_exchange {w mid next : World} {s : String}
    {result : Except AuthError TokenAnswer} (retrieved : c.source.retrieve.run w = (.ok s, mid))
    (traded : (c.sts.exchange (c.form s) Headers.empty).run mid = (result, next)) :
    ∃ later, World.Received later next (c.fetch.run w).2 ∧ ∀ a ∈ later, a.errand ≠ .exchange := by
  have still : World.Received [] next next := World.received_nil rfl rfl
  cases result with
  | error e =>
    rw [fetch_untraded retrieved traded]
    exact ⟨[], still, List.forall_mem_nil _⟩
  | ok answer =>
    cases service : c.impersonationUrl with
    | none =>
      rw [fetch_direct retrieved traded service]
      exact ⟨[], still, List.forall_mem_nil _⟩
    | some url =>
      rw [fetch_service retrieved traded service]
      obtain ⟨later, received, beginning, -⟩ :=
        Impersonation.generate_follows url answer.accessToken c.scopes next
      exact ⟨later, received, errand_ne_of_plan beginning (by decide)⟩

/-- **The exchange of a fetch carries the subject token that was retrieved for it**: no other
exchange arrives, and this one does if there is a token and the endpoint can be reached. -/
theorem fetch_carries (c : Credentials) (w : World) :
    ∃ new, World.Received new w (c.fetch.run w).2 ∧
      (∀ a ∈ new, a.errand = .exchange → c.sts.Reaches w.network ∧
        ∃ s, (c.source.retrieve.run w).1 = .ok s ∧ a.Carries s) ∧
      ∀ s, (c.source.retrieve.run w).1 = .ok s → c.sts.Reaches w.network →
        ∃ a ∈ new, a.Carries s := by
  obtain ⟨before, first, beginning, -⟩ := c.source.retrieve_follows w
  have other := errand_ne_of_plan beginning c.source.exchange_not_mem_plan
  rcases retrieved : c.source.retrieve.run w with ⟨result, mid⟩
  rw [retrieved] at first
  cases result with
  | error e =>
    rw [fetch_unretrieved retrieved]
    exact ⟨before, first, fun a member exchange => absurd exchange (other a member), nofun⟩
  | ok s =>
    obtain ⟨posted, second, carries, reached⟩ :=
      c.sts.exchange_carries (c.form s) Headers.empty mid
    rcases traded : (c.sts.exchange (c.form s) Headers.empty).run mid with ⟨answer, next⟩
    rw [traded] at second
    obtain ⟨later, third, none⟩ := received_after_exchange retrieved traded
    -- of the three parts of a fetch only the middle one is an exchange
    refine ⟨before ++ (posted ++ later), first.trans (second.trans third), ?_, ?_⟩
    · intro a member exchange
      rcases List.mem_append.mp member with earlier | member
      · exact absurd exchange (other a earlier)
      · rcases List.mem_append.mp member with here | after
        · obtain ⟨carried, u, parsed, http, listening⟩ := carries a here
          exact ⟨⟨u, parsed, http, first.listening.symm.trans listening⟩, s, rfl, carried⟩
        · exact absurd exchange (none a after)
    · rintro _ ⟨⟩ ⟨u, parsed, http, listening⟩
      obtain ⟨a, member, carried⟩ := reached ⟨u, parsed, http, first.listening.trans listening⟩
      exact ⟨a, List.mem_append_right _ (List.mem_append_left _ member), carried⟩

/-! ## §3. Runs. -/

/-- What the application has to bring is the end of what it had, whatever is sent and logged. -/
theorem stable_subjects (l : List SubjectReply) : World.Stable fun w => w.subjects <:+ l where
  sent _ _ _ kept := kept
  subjects w kept := (List.drop_suffix 1 w.subjects).trans kept
  note _ _ _ kept := kept

/-- An exchange carries a subject token that the application had to bring in a world, or that is not
empty. -/
def Vouches (c : Credentials) (start : World) (a : Arrival) : Prop :=
  a.errand = .exchange →
    ∃ t, a.Carries t ∧ (t = "" → c.source = .application ∧ .token "" ∈ start.subjects)

/-- **Where a run stands**: of what the application had to bring the end is left, and every exchange
that has arrived since carries what it should. -/
structure Vouched (c : Credentials) (start w : World) : Prop where
  /-- What the application still has to bring. -/
  subjects : w.subjects <:+ start.subjects
  /-- What has arrived. -/
  arrived : ∃ new : List Arrival, w.network.arrived = new.reverse ++ start.network.arrived ∧
    ∀ a ∈ new, c.Vouches start a

/-- More has arrived. -/
theorem Vouched.receive {start w next : World} {new : List Arrival} (h : c.Vouched start w)
    (subjects : next.subjects <:+ start.subjects) (received : World.Received new w next)
    (vouched : ∀ a ∈ new, c.Vouches start a) : c.Vouched start next := by
  obtain ⟨before, arrived, each⟩ := h.arrived
  refine ⟨subjects, before ++ new, ?_, fun a member => ?_⟩
  · rw [received.arrived, arrived, List.reverse_append, List.append_assoc]
  · exact (List.mem_append.mp member).elim (each a) (vouched a)

/-- What is sent for another errand carries no subject token. -/
theorem Vouched.other {plan : List Errand} {α : Type} {act : Act α} (follows : act.Follows plan)
    (others : .exchange ∉ plan) {start w : World} (h : c.Vouched start w)
    (subjects : (act.run w).2.subjects <:+ start.subjects) : c.Vouched start (act.run w).2 := by
  obtain ⟨new, received, beginning, -⟩ := follows w
  exact h.receive subjects received fun a member exchange =>
    absurd exchange (errand_ne_of_plan beginning others a member)

theorem lookup_follows (baseUrl number : String) (h : Headers) :
    Act.Follows [.projectId] (Project.lookup baseUrl number h) :=
  Act.follows_last (Act.follows_call _ _ _ _ _) fun _ =>
    Act.follows_then (Act.follows_lift _) fun _ =>
      Act.follows_then (Act.follows_note _) fun _ => Act.follows_pure _

/-- **Every errand keeps it.** -/
theorem vouched_keeps (c : Credentials) (start : World) : c.Keeps (c.Vouched start) where
  note _ _ h := ⟨h.subjects, h.arrived⟩
  files _ _ h := ⟨h.subjects, h.arrived⟩
  clock _ _ h := ⟨h.subjects, h.arrived⟩
  lookup number headers w h :=
    h.other (lookup_follows c.projectsUrl number headers) (by decide)
      ((stable_subjects _).lookup _ _ _ w h.subjects)
  send r w h :=
    h.other (Act.follows_send .target r) (by decide) ((stable_subjects _).send _ _ w h.subjects)
  fetch w h := by
    obtain ⟨new, received, carries, -⟩ := c.fetch_carries w
    refine h.receive ((stable_subjects _).fetch c w h.subjects) received fun a member exchange => ?_
    obtain ⟨-, s, retrieved, carried⟩ := carries a member exchange
    refine ⟨s, carried, fun empty => ?_⟩
    -- an empty token was the next that the application had to bring
    rw [empty] at retrieved
    obtain ⟨application, next⟩ := (c.source.retrieve_empty_iff w).mp retrieved
    exact ⟨application, h.subjects.subset (List.mem_of_mem_head? next)⟩

/-- **When an empty subject token is sent.**  A retrieval brings one exactly if the application does,
from whatever source and whatever its content; a fetch sends one exactly if, besides, the token
endpoint can be reached; and in a run every exchange carries one subject token, which is not empty
unless the application had an empty one to bring. -/
theorem empty_subject_iff (c : Credentials) :
    (∀ w : World, (c.source.retrieve.run w).1 = .ok "" ↔
      c.source = .application ∧ w.subjects.head? = some (.token "")) ∧
    (∀ w : World, (∃ a ∈ w.arrivals (c.fetch.run w).2, a.Carries "") ↔
      c.source = .application ∧ w.subjects.head? = some (.token "") ∧ c.sts.Reaches w.network) ∧
    ∀ actions, ∀ s : Session, ∀ a ∈ s.arrivals (c.run actions s), c.Vouches s.world a := by
  refine ⟨c.source.retrieve_empty_iff, fun w => ?_, fun actions s => ?_⟩
  · obtain ⟨new, received, carries, reached⟩ := c.fetch_carries w
    rw [World.arrivals_eq received.arrived, ← and_assoc, ← c.source.retrieve_empty_iff]
    constructor
    · rintro ⟨a, member, carried⟩
      obtain ⟨reaches, s, retrieved, carried'⟩ := carries a member carried.1
      cases carried.unique carried'
      exact ⟨retrieved, reaches⟩
    · rintro ⟨retrieved, reaches⟩
      exact reached "" retrieved reaches
  · have start : c.Vouched s.world s.world := ⟨List.suffix_rfl, [], rfl, List.forall_mem_nil _⟩
    obtain ⟨new, arrived, vouched⟩ := ((c.vouched_keeps s.world).run actions start).arrived
    rw [Session.arrivals_eq arrived]
    exact vouched

end Credentials

/-! ## §4. An application with nothing to say. -/

namespace Speechless

/-- Credentials of an application that brings its own subject tokens. -/
def credentials : Credentials where
  source := .application
  sts := ⟨"http://sts/token", .anonymous⟩
  impersonationUrl := none
  audience := "audience"
  subjectTokenType := "type"
  scopes := ["scope"]
  quotaProject := none
  policy := RefreshPolicy.standard
  projectNumber := none
  projectsUrl := standardProjectsUrl

/-- Somebody listens, and the token that the application brings is empty. -/
def world : World where
  network := ⟨true, [], []⟩
  files := ⟨[], []⟩
  clock := .start
  subjects := [.token ""]
  log := []

end Speechless

open Speechless in
/-- An empty token of the application is retrieved, and it is sent to be exchanged. -/
theorem empty_subject_of_application :
    (credentials.source.retrieve.run world).1 = .ok "" ∧
    ∃ a, (credentials.session world).arrivals
        (credentials.run [.obtain .current] (credentials.session world)) = [a] ∧
      a.Carries "" :=
  ⟨rfl, _, rfl, rfl, by decide⟩

end WorkloadIdentity
