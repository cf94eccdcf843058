/-
  WorkloadIdentity.Proofs.Credentials.Counterpart ──── **WHERE A SUBJECT TOKEN CAME FROM DOES NOT
  SHOW.**

  A document names a file or a URL for its subject tokens.  An application that brings its own can
  declare the rest of what the document says, and choose outright what the document leaves open or
  settles.  Its credentials are the same but for the source; and as long as the application brings
  the tokens that the source of the document would give, they tell the same story: the same answers,
  the same requests but those for subject tokens, and the same announcements.

  Main results:
    * `Setup.build_counterpart`        — the counterpart of credentials, set up by itself
    * `Credentials.story_mirrors`      — two stories of the same calls
    * `Setup.counterpart_tells_alike`  — both together
-/
import WorkloadIdentity.Proofs.Credentials.Abreast
import WorkloadIdentity.Proofs.Credentials.Terms
import WorkloadIdentity.Proofs.Log.Secrecy

namespace WorkloadIdentity

/-! ## §1. Declared and chosen outright. -/

/-- What a document says, declared by an application that brings its own subject tokens. -/
def Document.counterpart (d : Document) : Declaration :=
  ⟨d.audience, d.subjectTokenType, d.tokenUrl, d.impersonationUrl⟩

/-- **Options that leave nothing open** of what credentials came to: scopes, client authentication
and, if there is one, the project that pays. -/
def Options.outright (o : Options) (c : Credentials) : Options :=
  { o with
    quotaProject := c.quotaProject
    scopes := some c.scopes
    authentication := some c.sts.authentication }

/-- **A setup reads a document**: it is one, or a file with one. -/
inductive Setup.Reads (files : FileSystem) (d : Document) : Setup → Prop where
  /-- A document. -/
  | document {v : Json} (read : Document.ofJson v = .ok d) : Reads files d (.document v)
  /-- A file with a document. -/
  | file {path : String} (read : Document.ofFile files path = .ok d) : Reads files d (.file path)

/-! ## §2. The counterpart, set up. -/

namespace Config

variable {k : Config}

/-- What a declaration takes over from a configuration. -/
def counterpart (k : Config) : Config :=
  { k with authentication := .anonymous, source := .application, quotaProject := none, scopes := [] }

theorem checkUrl_of_parse {field value : String} {u : Url} (parsed : Url.parse value = .ok u) :
    checkUrl field value = .ok () := by
  unfold checkUrl
  rw [parsed]

theorem checked_of_absolute (absolute : k.Absolute) : k.checked = .ok k := by
  obtain ⟨_, token⟩ := absolute.tokenUrl
  unfold checked
  rw [checkUrl_of_parse token]
  cases imp : k.impersonationUrl with
  | none => rfl
  | some url =>
    obtain ⟨_, service⟩ := absolute.impersonationUrl url imp
    show (checkUrl "service_account_impersonation_url" url >>= fun _ => .ok k) = _
    rw [checkUrl_of_parse service]
    rfl

/-- The scopes in the end are not empty, so that they stay if they are chosen. -/
theorem effectiveScopes_chosen (chosen : Option (List String)) (configured other : List String) :
    effectiveScopes (some (effectiveScopes chosen configured)) other
      = effectiveScopes chosen configured := by
  unfold effectiveScopes
  cases chosen.getD configured <;> rfl

/-- **A declaration and outright choices** make the counterpart of the credentials. -/
theorem credentials_counterpart (k : Config) (o : Options) (environment : Option String) :
    k.counterpart.credentials (o.outright (k.credentials o environment)) environment
      = (k.credentials o environment).counterpart := by
  have payer : ((((o.quotaProject.or environment).or k.quotaProject).or environment).or none)
      = (o.quotaProject.or environment).or k.quotaProject := by
    cases o.quotaProject <;> cases environment <;> cases k.quotaProject <;> rfl
  have scopes := effectiveScopes_chosen o.scopes k.scopes []
  unfold Credentials.counterpart credentials counterpart Options.outright
  dsimp only
  rw [payer, scopes]
  rfl

end Config

/-- The declaration of an accepted document is accepted. -/
theorem Document.config_counterpart {d : Document} {k : Config} (h : d.config = .ok k) :
    d.counterpart.config = .ok k.counterpart := by
  obtain ⟨declared, absolute⟩ := Document.declares_of_config h
  have checked : k.counterpart.checked = .ok k.counterpart :=
    Config.checked_of_absolute ⟨absolute.tokenUrl, absolute.impersonationUrl⟩
  unfold Declaration.config Document.counterpart
  rw [declared.audience, declared.subjectTokenType, declared.tokenUrl, ← declared.impersonationUrl]
  exact checked

/-- What a setup says is what its document says, and it is logged. -/
theorem Setup.config_of_reads {setup : Setup} {files : FileSystem} {d : Document}
    (reads : setup.Reads files d) :
    setup.config files = d.config >>= fun k => .ok (k, [setupRecord k]) := by
  cases reads with
  | @document v read =>
    show (Document.ofJson v >>= fun d => d.config >>= fun k => .ok (k, [setupRecord k])) = _
    rw [read]
    rfl
  | @file path read =>
    show (Document.ofFile files path >>= fun d =>
      d.config >>= fun k => .ok (k, [setupRecord k])) = _
    rw [read]
    rfl

/-- **The counterpart of credentials** is what a declaration and outright choices make. -/
theorem Setup.build_counterpart {setup : Setup} {files : FileSystem} {d : Document} {o : Options}
    {environment : Option String} {c : Credentials} {records : List LogRecord}
    (reads : setup.Reads files d) (built : setup.build o environment files = .ok (c, records))
    (files' : FileSystem) :
    (Setup.declaration d.counterpart).build (o.outright c) environment files'
      = .ok (c.counterpart, []) := by
  obtain ⟨⟨k, _⟩, config, built⟩ := exists_of_bind_ok built
  cases built
  rw [config_of_reads reads] at config
  obtain ⟨_, said, config⟩ := exists_of_bind_ok config
  cases config
  have declared : (Setup.declaration d.counterpart).config files' = .ok (k.counterpart, []) := by
    show (d.counterpart.config >>= fun k => .ok (k, [])) = _
    rw [Document.config_counterpart said]
    rfl
  unfold Setup.build
  rw [declared, ← Config.credentials_counterpart]
  rfl

/-! ## §3. Two stories. -/

namespace Credentials

/-- **A page without the requests for subject tokens.** -/
def Page.withoutRetrievals (p : Page) : Page := { p with requests := others p.requests }

variable (c : Credentials)

/-- **A page of the counterpart** is that page without the requests for subject tokens. -/
theorem page_mirrors (call : Call) :
    Mirrors Session.pairing (c.drawnBy call)
      (fun s => ((c.page call s).withoutRetrievals, c.take call.action s))
      fun s => (c.counterpart.page call s, c.counterpart.take call.action s) := by
  intro s
  obtain ⟨new, arrived, mirror⟩ := c.take_mirrors call s
  refine ⟨new, arrived, fun tokens errands later s' drawn abreast => ?_⟩
  obtain ⟨same, abreast, arrived'⟩ := mirror tokens errands later s' drawn abreast
  refine ⟨?_, abreast, arrived'⟩
  unfold page Page.withoutRetrievals
  dsimp only at same ⊢
  rw [same, abreast.cache, Session.arrivals_eq arrived, Session.arrivals_eq arrived']

/-- **The story of the counterpart** is the same story, page by page.  By induction on the calls:
the tokens and the errands of each call are taken off before the rest is told. -/
theorem story_mirrors (calls : List Call) :
    Mirrors Session.pairing (c.retrievals calls)
      (fun s => ((c.story calls s).map Page.withoutRetrievals, c.run (calls.map Call.action) s))
      fun s => (c.counterpart.story calls s, c.counterpart.run (calls.map Call.action) s) := by
  induction calls with
  | nil => exact Mirrors.still (fun _ => rfl) (fun _ => rfl) fun _ _ _ _ abreast => ⟨rfl, abreast⟩
  | cons call rest ih =>
    intro s
    obtain ⟨new, arrived, mirror⟩ := c.page_mirrors call s
    obtain ⟨more, arrived', mirror'⟩ := ih (c.take call.action s)
    refine ⟨new ++ more, ?_, fun tokens errands later s' drawn abreast => ?_⟩
    · rw [List.reverse_append, List.append_assoc]
      exact arrived'.trans (congrArg (more.reverse ++ ·) arrived)
    · obtain ⟨first, second, rfl, drawn, drawn'⟩ := List.append_eq_map_iff.mp drawn
      rw [List.map_append, List.append_assoc, List.append_assoc] at abreast
      obtain ⟨page, abreast, arrived⟩ := mirror first _ _ s' drawn.symm abreast
      obtain ⟨pages, abreast, arrived'⟩ := mirror' second errands later _ drawn'.symm abreast
      refine ⟨congrArg₂ List.cons page pages, abreast, ?_⟩
      rw [others_append, List.reverse_append, List.append_assoc]
      exact arrived'.trans (congrArg ((others more).reverse ++ ·) arrived)

end Credentials

/-- **Credentials of a document and of a declaration** tell the same story: if the terms of the
document are declared and chosen outright, and the application brings the subject tokens that the
source of the document gives, then whatever is called in whichever order is answered in the same
way, with the same requests but those for subject tokens and the same announcements. -/
theorem Setup.counterpart_tells_alike {setup : Setup} {files : FileSystem} {d : Document}
    {o : Options} {environment : Option String} {c : Credentials} {records : List LogRecord}
    (reads : setup.Reads files d) (built : setup.build o environment files = .ok (c, records))
    (files' : FileSystem) :
    ∃ c', (Setup.declaration d.counterpart).build (o.outright c) environment files' = .ok (c', []) ∧
      ∀ calls tokens w w', c.retrievals calls (c.session w) = tokens.map .ok →
        w.Abreast (c.errands (calls.map Credentials.Call.action) w) tokens w' →
          c'.story calls (c'.session w')
            = (c.story calls (c.session w)).map Credentials.Page.withoutRetrievals := by
  refine ⟨c.counterpart, build_counterpart reads built files', ?_⟩
  intro calls tokens w w' drawn abreast
  obtain ⟨new, arrived, mirror⟩ := c.story_mirrors calls (c.session w)
  have errands : c.errands (calls.map Credentials.Call.action) w = new.map (·.errand) ++ [] := by
    rw [List.append_nil]
    exact congrArg (List.map (·.errand)) (Session.arrivals_eq arrived)
  rw [errands, ← List.append_nil tokens] at abreast
  exact (mirror tokens [] [] (c.counterpart.session w') drawn ⟨abreast, rfl, rfl⟩).1

/-- Results that are all successes. -/
theorem eq_map_ok_of_toOption {ε α : Type} {results : List (Except ε α)} {values : List α}
    (h : results.map Except.toOption = values.map some) : results = values.map .ok := by
  induction results generalizing values with
  | nil => rw [List.map_eq_nil_iff.mp h.symm]; rfl
  | cons result rest ih =>
    obtain ⟨a, later, rfl, here, there⟩ := List.map_eq_cons_iff.mp h.symm
    cases result with
    | error e => cases here
    | ok b =>
      cases here
      rw [ih there.symm]
      rfl

namespace Tenants

/-- The document of a tenant, as it is read. -/
def terms (secret : String) : Document :=
  ⟨some "audience", some "type", some "http://sts/token",
    some ⟨none, some "http://idp/token", none, none⟩, some "client", some secret, none, none, none⟩

/-- A token is asked for, and then a fresh one that somebody hears of. -/
def calls : List Credentials.Call := [.token .current, .subscribe, .token .fresh, .receive 0]

end Tenants

open Tenants in
/-- **A tenant and an application** that brings the same subject tokens: the tenant asks for them,
and that is all that differs. -/
theorem counterpart_tells_alike_of_tenant :
    let c := credentials "secret"
    let tokens := ["subject-a", "subject-b"]
    let w := world [Utf8.encode "subject-a", answer "token-a" "3600", Utf8.encode "subject-b",
      answer "token-b" "3600"]
    let w' := { world [answer "token-a" "3600", answer "token-b" "3600"] with
      subjects := tokens.map .token }
    Setup.Reads ⟨[], []⟩ (terms "secret") (.document (document "secret")) ∧
      (Setup.document (document "secret")).build .standard none ⟨[], []⟩ = .ok (c, records) ∧
      c.retrievals calls (c.session w) = tokens.map .ok ∧
      w.Abreast (c.errands (calls.map Credentials.Call.action) w) tokens w' ∧
      (c.story calls (c.session w)).map (fun page => page.requests.map (·.errand))
        = [[.subjectToken, .exchange], [], [.subjectToken, .exchange], []] ∧
      ∃ c', (Setup.declaration (terms "secret").counterpart).build
          (Options.standard.outright c) none ⟨[], []⟩ = .ok (c', []) ∧
        c'.story calls (c'.session w')
          = (c.story calls (c.session w)).map Credentials.Page.withoutRetrievals := by
  intro c tokens w w'
  have reads : Setup.Reads ⟨[], []⟩ (terms "secret") (.document (document "secret")) :=
    .document rfl
  have built : (Setup.document (document "secret")).build .standard none ⟨[], []⟩
      = .ok (c, records) := rfl
  have drawn : c.retrievals calls (c.session w) = tokens.map .ok :=
    eq_map_ok_of_toOption (by decide +kernel)
  have asked : c.errands (calls.map Credentials.Call.action) w
      = [.subjectToken, .exchange, .subjectToken, .exchange] := by decide +kernel
  have abreast : w.Abreast (c.errands (calls.map Credentials.Call.action) w) tokens w' := by
    rw [asked]
    exact ⟨rfl, rfl, rfl, List.prefix_rfl⟩
  obtain ⟨c', declared, alike⟩ := Setup.counterpart_tells_alike reads built ⟨[], []⟩
  exact ⟨reads, built, drawn, abreast, by decide +kernel, c', declared,
    alike calls tokens w w' drawn abreast⟩

end WorkloadIdentity
