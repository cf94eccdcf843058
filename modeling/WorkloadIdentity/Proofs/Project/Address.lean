/-
  WorkloadIdentity.Proofs.Project.Address ──── **WHERE THE ID OF A PROJECT IS ASKED FOR.**

  The number of a project is put behind a URL as it stands in the audience, and the whole is read as
  a URL.  A number of digits is one more segment.  But the number is whatever stands between two
  slashes: with a question mark in it, it ends in a query, and as a pair of dots it leads to another
  place.  So the request goes where it should exactly if the number is a segment as it stands.

  Main results:
    * `Credentials.lookup_sent`         — the one request that a call for the id sends
    * `Config.project_url_extends_iff`  — to which URL it goes, and when that stands for the number
    * `Config.project_url_with_query`   — a number that it does not stand for
-/
import WorkloadIdentity.Proofs.Http.Extension
import WorkloadIdentity.Proofs.Http.Legality
import WorkloadIdentity.Proofs.Project.Desk
import WorkloadIdentity.Proofs.Project.Number

namespace WorkloadIdentity

/-! ## §1. The request. -/

/-- The request for the id of a project, with the headers of a token. -/
def Project.question (u : Url) (token : String) (quota : Option String) : Arrival :=
  ⟨.projectId, ⟨"GET", u, ⟨signature token quota⟩, .none⟩⟩

/-- **A call for the id sends one request**, to the URL that the number completes, as soon as there
is a token that can be sent. -/
theorem Credentials.lookup_sent {c : Credentials} {number : String} {u : Url} {s mid : Session}
    {t : AccessToken} (numbered : c.projectNumber = some number)
    (parsed : Url.parse (c.projectsUrl ++ number) = .ok u) (unknown : s.projectId = none)
    (token : (c.obtain .current).run s = (.ok t, mid)) (legal : Signable t.token c.quotaProject) :
    World.Received ([Project.question u t.token c.quotaProject].filter
      (mid.world.network.hears ·.request)) mid.world (c.projectId.run s).2.world := by
  have ready := run_headers_ok token (bearerHeaders_of_legal legal)
  have sent := Project.lookup_sends c.projectsUrl number ⟨signature t.token c.quotaProject⟩
    mid.world
  unfold Act.written at sent
  rw [parsed] at sent
  rw [run_projectId_signed numbered unknown ready]
  rcases ran : (Project.lookup c.projectsUrl number ⟨signature t.token c.quotaProject⟩).run
    mid.world with ⟨result, w⟩
  rw [ran] at sent
  cases result <;> exact sent

/-! ## §2. Its URL. -/

/-- **Where the id of a project is asked for.**  A number behind a base is a URL, whatever is in it,
and that is where the one request goes, with the token.  The URL is the base with one more segment
that stands for the number exactly if the number is a segment as it stands. -/
theorem Config.project_url_extends_iff (k : Config) (o : Options) (environment : Option String)
    {number : String} {base : Url} (numbered : projectNumber? k.audience = some number)
    (usable : Url.IsBase (k.credentials o environment).projectsUrl base) :
    ∃ u, Url.parse ((k.credentials o environment).projectsUrl ++ number) = .ok u ∧
      (u.Extends base number ↔ Url.IsSegment number) ∧
      ∀ s mid : Session, ∀ t, s.projectId = none →
        ((k.credentials o environment).obtain .current).run s = (.ok t, mid) →
        Signable t.token (k.credentials o environment).quotaProject →
        World.Received
          ([Project.question u t.token (k.credentials o environment).quotaProject].filter
            (mid.world.network.hears ·.request))
          mid.world ((k.credentials o environment).projectId.run s).2.world := by
  obtain ⟨filled, -⟩ := whole_of_projectNumber? numbered
  obtain ⟨u, parsed, extends_iff⟩ := usable.extends_iff filled
  exact ⟨u, parsed, extends_iff, fun s mid t unknown token legal =>
    Credentials.lookup_sent numbered parsed unknown token legal⟩

/-! ## §3. A number, and one with a question mark. -/

namespace Pooled

/-- A configuration for the pool of a project. -/
def config (number : String) : Config where
  audience := "//iam.googleapis.com/projects/" ++ number ++ "/locations/global"
  subjectTokenType := "jwt"
  tokenUrl := "http://sts.example/v1/token"
  authentication := .anonymous
  source := .application
  impersonationUrl := none
  quotaProject := none
  scopes := []

/-- Ids of projects are asked for at another place than usual. -/
def options : Options := { Options.standard with projectsUrl := some "http://crm.example/v1/projects/" }

/-- The URL of this place. -/
def base : Url where
  scheme := "http".toList
  authority := some ⟨[], [], .name "crm.example".toList, none⟩
  path := .segments ["v1".toList, "projects".toList, []]
  query := none
  fragment := none

/-- The credentials. -/
abbrev pooled (number : String) : Credentials := (config number).credentials options none

/-- Somebody listens, and a token has been put in place. -/
def session (number : String) : Session :=
  Credentials.install ⟨"token-1", none, none⟩
    ((pooled number).session ⟨⟨true, [], []⟩, ⟨[], []⟩, .start, [], []⟩)

theorem usable : Url.IsBase "http://crm.example/v1/projects/" base :=
  ⟨by decide, .inl rfl, by decide, rfl, rfl⟩

end Pooled

open Pooled in
/-- A number of digits is one more segment. -/
theorem Config.project_url_of_digits :
    ∃ u, Url.parse "http://crm.example/v1/projects/123456" = .ok u ∧ u.Extends base "123456" ∧
      (session "123456").arrivals ((pooled "123456").projectId.run (session "123456")).2
        = [Project.question u "token-1" none] := by
  have numbered : projectNumber? (config "123456").audience = some "123456" := by decide
  obtain ⟨u, parsed, extends_iff, sent⟩ :=
    project_url_extends_iff (config "123456") options none numbered usable
  have received := sent (session "123456") _ _ rfl rfl ⟨by decide, nofun⟩
  have found : Url.parse "http://crm.example/v1/projects/123456" = .ok { base with
      path := .segments ["v1".toList, "projects".toList, "123456".toList] } := rfl
  -- the URL is known, so it can be told that somebody hears the request
  cases found.symm.trans parsed
  exact ⟨_, found, extends_iff.mpr (by decide), Session.arrivals_eq received.arrived⟩

open Pooled in
/-- **A number with a question mark ends in a query**: the request goes to the path of another
number. -/
theorem Config.project_url_with_query :
    projectNumber? (config "123456?x").audience = some "123456?x" ∧
    Url.IsBase (pooled "123456?x").projectsUrl base ∧
    ∃ u, (session "123456?x").arrivals ((pooled "123456?x").projectId.run (session "123456?x")).2
        = [Project.question u "token-1" none] ∧
      u.text = "http://crm.example/v1/projects/123456?x" ∧
      u.path = .segments ["v1".toList, "projects".toList, "123456".toList] ∧
      u.query = some ['x'] ∧ ¬ u.Extends base "123456?x" := by
  refine ⟨by decide, usable, _, rfl, ?_, rfl, rfl, ?_⟩
  · decide
  · intro extended
    cases extended.query

end WorkloadIdentity
