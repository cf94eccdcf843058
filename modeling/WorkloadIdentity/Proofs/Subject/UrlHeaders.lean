/-
  WorkloadIdentity.Proofs.Subject.UrlHeaders ──── **THE ORDER OF HEADERS DOES NOT MATTER.**

  The headers of a URL source are the fields of an object, and come in no particular order.  They
  are checked one after another until one is refused, and appended one after another until then; so
  which of them is refused depends on the order, and nothing else does.  A name may come in more
  than one spelling, and each of them is a header.

  Main results:
    * `Headers.holds_of_perm`              — the headers of reordered entries
    * `Credentials.asksWith_of_url`        — what is sent to a URL, in a retrieval and in a run
    * `SubjectSource.urlHeaders_any_order` — both, from the entries to the requests
-/
import WorkloadIdentity.Proofs.Credentials.Invariants
import WorkloadIdentity.Proofs.Credentials.Sendings
import WorkloadIdentity.Proofs.Http.Legality
import WorkloadIdentity.Proofs.Subject.Emptiness

namespace WorkloadIdentity

/-! ## §1. Headers and entries. -/

/-- **Headers hold entries**: one header for each entry, its name in lower case and its value as it
stands, and no others. -/
structure Headers.Holds (h : Headers) (entries : List (String × String)) : Prop where
  /-- One header for each entry. -/
  each : h.toList.Perm (entries.map fun p => (p.1.toLower, HeaderValue.ofText p.2))
  /-- A name has the values of all its spellings. -/
  values : ∀ name, (h.values name).Perm
    ((entries.filter (·.1.toLower == name)).map fun p => HeaderValue.ofText p.2)

theorem Headers.holds_of_perm {entries order : List (String × String)}
    (reordered : order.Perm entries) : Headers.Holds ⟨order.map entry⟩ entries where
  each := reordered.map entry
  values name := by
    have same : ((order.map entry).filter (·.1 == name)).map (·.2)
        = (order.filter (·.1.toLower == name)).map fun p => HeaderValue.ofText p.2 := by
      rw [List.filter_map, List.map_map]
      rfl
    unfold values
    rw [same]
    exact (reordered.filter _).map _

/-- In whatever order, the same entries are legal. -/
theorem Headers.allLegal_of_perm {entries order : List (String × String)}
    (reordered : order.Perm entries) : AllLegal order ↔ AllLegal entries := by
  unfold AllLegal
  exact forall_congr' fun p => imp_congr_left reordered.mem_iff

/-! ## §2. Requests. -/

/-- A request asks a URL for a subject token, with headers and without a body. -/
def Request.AsksFor (r : Request) (address : String) (h : Headers) : Prop :=
  r.method = "GET" ∧ Url.parse address = .ok r.url ∧ r.headers = h ∧ r.body = .none

/-- **Credentials ask a URL for subject tokens**, with headers: once in each retrieval that gets
through to somebody, and in no other way. -/
structure Credentials.AsksWith (c : Credentials) (address : String) (h : Headers) : Prop where
  /-- A retrieval sends one request, if somebody hears it. -/
  once : ∀ u, Url.parse address = .ok u → ∀ w : World,
    u.isHttp = true → w.network.listening = true →
    ∃ r : Request, r.AsksFor address h ∧
      World.Received [⟨.subjectToken, r⟩] w (c.source.retrieve.run w).2
  /-- Whatever is sent for a subject token, whatever else is done, is such a request. -/
  always : ∀ actions, ∀ s : Session, ∀ a ∈ s.arrivals (c.run actions s),
    a.errand = .subjectToken → a.request.AsksFor address h

/-- What is asked for at a URL is what a retrieval asks for. -/
theorem SubjectSource.asksFor_of_mem {address : String} {h : Headers} {format : SourceFormat}
    {a : Arrival} (member : a ∈ (SubjectSource.url address h format).requests) :
    a.request.AsksFor address h := by
  obtain ⟨u, parsed, rfl⟩ := List.mem_map.mp member
  refine ⟨rfl, ?_, rfl, rfl⟩
  cases outcome : Url.parse address with
  | error e =>
    rw [outcome] at parsed
    cases parsed
  | ok u' =>
    rw [outcome] at parsed
    cases List.mem_singleton.mp parsed
    rfl

/-- **What is sent to a URL**, in a retrieval and in a run. -/
theorem Credentials.asksWith_of_url {c : Credentials} {address : String} {h : Headers}
    {format : SourceFormat} (source : c.source = .url address h format) :
    c.AsksWith address h := by
  constructor
  · intro u parsed w http listening
    have received := c.source.retrieve_received w
    have heard : w.network.hears ⟨"GET", u, h, .none⟩ = true :=
      Bool.and_eq_true_iff.mpr ⟨http, listening⟩
    have one : c.source.requests.filter (w.network.hears ·.request)
        = [⟨.subjectToken, ⟨"GET", u, h, .none⟩⟩] := by
      rw [source]
      simp [SubjectSource.requests, Act.written, parsed, Except.toOption, heard]
    rw [one] at received
    exact ⟨_, ⟨rfl, parsed, rfl, rfl⟩, received⟩
  · -- the other errands of a fetch, and those of the application, are other errands
    have others (plan : List Errand) (unplanned : .subjectToken ∉ plan) (a : Arrival)
        (planned : a.errand ∈ plan) (same : a.errand = .subjectToken) :
        a.request.AsksFor address h := absurd (same ▸ planned) unplanned
    refine Credentials.Confines.run ⟨?_, fun number headers => ?_, fun r => ?_⟩
    · refine Act.Sends.bind (fun w => ?_) fun s => ?_
      · refine ⟨_, c.source.retrieve_received w, fun a member _ => ?_⟩
        rw [source] at member
        exact SubjectSource.asksFor_of_mem (List.mem_filter.mp member).1
      · refine Act.Sends.bind ((c.sts.exchange_follows _ _).sends (others _ (by decide)))
          fun answer => ?_
        cases c.impersonationUrl with
        | none => exact (Act.follows_nil fun w => ⟨rfl, rfl⟩).sends (others _ (by decide))
        | some url =>
          exact (Impersonation.generate_follows _ _ _).sends (others _ (by decide))
    · exact (lookup_follows _ number headers).sends (others _ (by decide))
    · exact (Act.follows_send .target r).sends (others _ (by decide))

/-! ## §3. From the entries to the requests. -/

/-- A document asks for subject tokens at a URL, which has been looked at. -/
structure SourceDocument.AsksAt (d : SourceDocument) (address : String) (format : SourceFormat) :
    Prop where
  /-- It names no file. -/
  file : d.file = none
  /-- It names the URL. -/
  url : d.url = some address
  /-- The URL is one. -/
  absolute : ∃ u, Url.parse address = .ok u
  /-- How the token is found. -/
  format : SourceFormat.ofDocument d.format = .ok format

/-- Of such a document, nothing but the headers is left to be checked. -/
theorem SourceDocument.AsksAt.source {d : SourceDocument} {address : String}
    {format : SourceFormat} {order : List (String × String)} (asks : d.AsksAt address format)
    (given : d.headers = some order) :
    d.source = (SubjectSource.urlHeaders order).map (.url address · format) := by
  obtain ⟨u, parsed⟩ := asks.absolute
  have checked : checkUrl "credential_source.url" address = .ok () := by
    unfold checkUrl
    rw [parsed]
  unfold SourceDocument.source
  rw [asks.format, asks.file, asks.url, given]
  dsimp only [bind, Except.bind, Option.getD_some]
  rw [checked]
  cases SubjectSource.urlHeaders order <;> rfl

/-- **The headers of a URL source, in whatever order they come.**  They are made exactly if all
entries are legal, and otherwise the source is to blame; and then every request for a subject token
has one header for each entry. -/
theorem SubjectSource.urlHeaders_any_order {entries order : List (String × String)}
    (reordered : order.Perm entries) :
    ((∃ h, urlHeaders order = .ok h) ↔ Headers.AllLegal entries) ∧
    (∀ e, urlHeaders order = .error e → e.category = .invalidSource) ∧
    (∀ h, urlHeaders order = .ok h → h.Holds entries ∧
      ∀ c : Credentials, ∀ address format, c.source = .url address h format →
        c.AsksWith address h) ∧
    ∀ d : SourceDocument, ∀ address format, d.AsksAt address format → d.headers = some order →
      d.source = (urlHeaders order).map (.url address · format) := by
  have same := Headers.allLegal_of_perm reordered
  refine ⟨⟨?_, fun legal => ⟨_, urlHeaders_eq_ok_iff.mpr ⟨same.mpr legal, rfl⟩⟩⟩,
    fun e => category_of_urlHeaders, fun h made => ?_, fun d address format asks => asks.source⟩
  · rintro ⟨h, made⟩
    exact same.mp (urlHeaders_eq_ok_iff.mp made).1
  · obtain ⟨-, rfl⟩ := urlHeaders_eq_ok_iff.mp made
    exact ⟨Headers.holds_of_perm reordered, fun c address format => Credentials.asksWith_of_url⟩

namespace TwoSpellings

/-- One name in two spellings. -/
def entries : List (String × String) := [("X-Tag", "one"), ("x-tag", "two")]

/-- The document of a URL source with these headers. -/
def document (order : List (String × String)) : SourceDocument :=
  ⟨none, some "http://metadata/token", some order, none⟩

end TwoSpellings

open TwoSpellings in
/-- One name in two spellings makes two headers, whichever comes first. -/
theorem SubjectSource.urlHeaders_of_spellings :
    ∃ h, (document entries.reverse).source = .ok (.url "http://metadata/token" h .text) ∧
      h.Holds entries ∧ h.values "x-tag" = [.ofText "two", .ofText "one"] := by
  obtain ⟨made, -, holds, said⟩ := urlHeaders_any_order entries.reverse_perm
  obtain ⟨h, ok⟩ := made.mpr (by decide)
  have source := said (document entries.reverse) "http://metadata/token" .text
    ⟨rfl, rfl, ⟨_, rfl⟩, rfl⟩ rfl
  rw [ok] at source
  refine ⟨h, source, (holds h ok).1, ?_⟩
  cases ok
  decide

end WorkloadIdentity
