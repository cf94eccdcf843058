/-
  WorkloadIdentity.Proofs.Credentials.Sendings ──── **EXACTLY WHAT IS SENT.**

  A request to a URL that is given as a text is made if the text is a URL, and arrives if somebody
  hears it.  What is done before or after it sends nothing, so what a retrieval or a lookup sends is
  this one request.

  Main results:
    * `Act.exchange_received`, `Act.call_received` — what arrives by one request
    * `SubjectSource.retrieve_received`, `Project.lookup_sends` — by a retrieval, and by a lookup
-/
import WorkloadIdentity.Proofs.Credentials.Posts
import WorkloadIdentity.Proofs.Request.Attempt

namespace WorkloadIdentity

/-! ## §1. One request. -/

namespace Act

/-- The request to a URL that is given as a text, if the text is a URL. -/
def written (errand : Errand) (method url : String) (headers : Headers) (body : Body) :
    List Arrival :=
  (Url.parse url).toOption.toList.map fun u => ⟨errand, ⟨method, u, headers, body⟩⟩

variable (errand : Errand) (method url : String) (headers : Headers) (body : Body) (w : World)

/-- **What arrives by a request**: the request, if it can be written and somebody hears it. -/
theorem exchange_received :
    World.Received ((written errand method url headers body).filter (w.network.hears ·.request)) w
      ((exchange errand method url headers body).run w).2 := by
  unfold written
  cases parsed : Url.parse url with
  | error e =>
    have unsent : (exchange errand method url headers body).run w
        = (.error (.ofClient errand.doing (.builder none)), w) := by
      unfold exchange prepare
      rw [parsed]
      rfl
    rw [unsent]
    exact World.received_nil rfl rfl
  | ok u =>
    rw [run_exchange errand method headers body parsed]
    exact sent_received rfl

/-- It does not matter whether only successful answers will do. -/
theorem call_received :
    World.Received ((written errand method url headers body).filter (w.network.hears ·.request)) w
      ((call errand method url headers body).run w).2 := by
  have received := exchange_received errand method url headers body w
  unfold call
  rcases ran : (exchange errand method url headers body).run w with ⟨result, next⟩
  rw [ran] at received
  cases result with
  | error e =>
    rw [run_bind_error ran]
    exact received
  | ok raw =>
    rw [run_bind_ok ran]
    split <;> exact received

/-- What sends nothing adds nothing. -/
theorem received_then {α β : Type} {x : Act α} {f : α → Act β} {new : List Arrival} {w : World}
    (first : World.Received new w (x.run w).2) (second : ∀ a, Follows [] (f a)) :
    World.Received new w ((x >>= f).run w).2 := by
  rcases ran : x.run w with ⟨result, mid⟩
  rw [ran] at first
  cases result with
  | error e =>
    rw [run_bind_error ran]
    exact first
  | ok a =>
    rw [run_bind_ok ran]
    obtain ⟨more, received, beginning, -⟩ := second a mid
    cases List.map_eq_nil_iff.mp (List.prefix_nil.mp beginning)
    have both := first.trans received
    rw [List.append_nil] at both
    exact both

end Act

/-! ## §2. A retrieval and a lookup. -/

/-- The requests for a subject token: one for what lies behind a URL, and none otherwise. -/
def SubjectSource.requests : SubjectSource → List Arrival
  | .url address headers _ => Act.written .subjectToken "GET" address headers .none
  | .file _ _ | .application => []

/-- **What arrives by a retrieval.** -/
theorem SubjectSource.retrieve_received (source : SubjectSource) (w : World) :
    World.Received (source.requests.filter (w.network.hears ·.request)) w
      (source.retrieve.run w).2 := by
  have nothing (source : SubjectSource) (planless : source.plan = []) :
      World.Received [] w (source.retrieve.run w).2 := by
    obtain ⟨new, received, beginning, -⟩ := source.retrieve_follows w
    rw [planless, List.prefix_nil, List.map_eq_nil_iff] at beginning
    rw [beginning] at received
    exact received
  cases source with
  | file path format => exact nothing (.file path format) rfl
  | application => exact nothing .application rfl
  | url address headers format =>
    refine Act.received_then (Act.received_then (Act.exchange_received _ _ _ _ _ w) fun raw => ?_)
      fun _ => Act.follows_lift _
    dsimp only
    split
    · exact Act.follows_throw_bind _ _
    · exact Act.follows_then (Act.follows_note _) fun _ => Act.follows_pure _

/-- **What arrives by a lookup.** -/
theorem Project.lookup_sends (baseUrl number : String) (h : Headers) (w : World) :
    World.Received
      ((Act.written .projectId "GET" (baseUrl ++ number) h .none).filter
        (w.network.hears ·.request)) w
      ((lookup baseUrl number h).run w).2 :=
  Act.received_then (Act.call_received _ _ _ _ _ w) fun _ =>
    Act.follows_then (Act.follows_lift _) fun _ =>
      Act.follows_then (Act.follows_note _) fun _ => Act.follows_pure _

end WorkloadIdentity
