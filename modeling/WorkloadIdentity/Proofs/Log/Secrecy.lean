/-
  WorkloadIdentity.Proofs.Log.Secrecy ──── **WHAT A LOG KEEPS TO ITSELF.**

  Two applications are set up and used in the same way, and all that differs is secret: the secret
  of the client, what the source of subject tokens contains, and the tokens in answers.  Their logs
  hold the same records, one for one, with two exceptions, both warnings that a fetch failed: a
  document of the source that lacks the field of its token is shown whole, with all its texts; and a
  fault in an answer that should hold a token is placed by line and column, and so by the length of
  the token before it.  Where neither is logged, the logs are equal.

  Main results:
    * `Setup.build_alike` — two setups that differ in the secret of the client
    * `Setup.logs_alike`  — the logs of two runs
-/
import WorkloadIdentity.Proofs.Log.Sessions

namespace WorkloadIdentity

/-! ## §1. The secret of a client. -/

/-- Two fields of a document: the same, or the secret of the client. -/
inductive Json.SecretField : String × Json → String × Json → Prop where
  /-- They do not differ. -/
  | same (p : String × Json) : SecretField p p
  /-- Two secrets. -/
  | secret (s s' : String) :
      SecretField ("client_secret", .string s) ("client_secret", .string s')

/-- **Two documents differ in the secret of the client only.** -/
inductive Json.SecretAlike : Json → Json → Prop where
  /-- They do not differ. -/
  | same (v : Json) : SecretAlike v v
  /-- They differ in the field of the secret. -/
  | object {fields fields' : List (String × Json)}
      (h : List.Forall₂ Json.SecretField fields fields') :
      SecretAlike (.object fields) (.object fields')

/-- Two documents that have been read. -/
def Document.Alike (d d' : Document) : Prop := ∃ s, d' = { d with clientSecret := s }

/-- **Two configurations differ in how the client makes itself known.** -/
def Config.Alike (c c' : Config) : Prop := ∃ a, c' = { c with authentication := a }

namespace Document

variable {d d' : Document}

theorem Alike.refl (d : Document) : d.Alike d := ⟨d.clientSecret, rfl⟩

/-- A field is read into both. -/
theorem of_alike {β : Type} {name : String} {read : Json.ValueReader β}
    {put : Document → β → Document} (h : d.Alike d')
    (keeps : ∀ d x, ∀ d', Alike d d' → (put d x).Alike (put d' x)) (v : Json) :
    Parallel Alike ((Json.ValueField.of name read put).read d v)
      ((Json.ValueField.of name read put).read d' v) := by
  unfold Json.ValueField.of
  dsimp only
  cases read v with
  | error m => exact .failed m
  | ok x => exact .ok (keeps d x d' h)

theorem read_alike {f : Json.ValueField Document} (member : f ∈ record.fields) (h : d.Alike d')
    (v : Json) : Parallel Alike (f.read d v) (f.read d' v) := by
  simp only [record, List.mem_cons, List.not_mem_nil, or_false] at member
  rcases member with rfl | rfl | rfl | rfl | rfl | rfl | rfl | rfl | rfl
  all_goals
    refine of_alike h ?_ v
    rintro d x _ ⟨s, rfl⟩
  case inr.inr.inr.inr.inr.inl => exact ⟨x, rfl⟩
  all_goals exact ⟨s, rfl⟩

theorem readFields_alike {fields fields' : List (String × Json)}
    (h : List.Forall₂ Json.SecretField fields fields') (drafts : d.Alike d') :
    Parallel Alike (record.readFields d fields) (record.readFields d' fields') := by
  induction h generalizing d d' with
  | nil => exact .ok drafts
  | @cons p p' rest rest' first _ ih =>
    unfold Json.ValueRecord.readFields
    cases first with
    | same =>
      cases found : record.fields.find? (·.name == p.1) with
      | none => exact ih drafts
      | some f =>
        exact (read_alike (List.mem_of_find?_eq_some found) drafts p.2).bind fun _ _ => ih
    | secret s s' =>
      -- both secrets are read, and nothing else is touched
      obtain ⟨t, rfl⟩ := drafts
      exact ih ⟨some s', rfl⟩

end Document

/-- Two documents have the same in any field but that of the secret. -/
theorem Json.field?_secret {fields fields' : List (String × Json)}
    (h : List.Forall₂ Json.SecretField fields fields') {name : String}
    (other : name ≠ "client_secret") :
    (Json.object fields).field? name = (Json.object fields').field? name := by
  unfold Json.field?
  dsimp only
  induction h with
  | nil => rfl
  | @cons p p' rest rest' first _ ih =>
    rw [List.find?_cons, List.find?_cons]
    cases first with
    | same =>
      cases p.1 == name with
      | true => rfl
      | false => exact ih
    | secret s s' =>
      have apart : ("client_secret" == name) = false := beq_false_of_ne other.symm
      dsimp only
      rw [apart]
      exact ih

theorem Document.ofJson_alike {v v' : Json} (h : v.SecretAlike v') :
    Parallel Document.Alike (Document.ofJson v) (Document.ofJson v') := by
  cases h with
  | same => exact Parallel.of_eq Document.Alike.refl _
  | @object fields fields' secret =>
    have read : Parallel Document.Alike (record.read (.object fields))
        (record.read (.object fields')) := readFields_alike secret (.refl record.blank)
    unfold Document.ofJson checkType
    rw [Json.field?_secret secret (by decide)]
    refine Parallel.after _ fun _ => ?_
    generalize record.read (.object fields) = x at read
    generalize record.read (.object fields') = x' at read
    cases read with
    | failed m => exact .failed _
    | ok h => exact .ok h

/-! ## §2. Setting up. -/

namespace Config

variable {c c' : Config}

theorem Alike.refl (c : Config) : c.Alike c := ⟨c.authentication, rfl⟩

theorem checked_alike (h : c.Alike c') : Parallel Config.Alike c.checked c'.checked := by
  obtain ⟨a, rfl⟩ := h
  unfold checked
  refine Parallel.after _ fun _ => ?_
  have both : Parallel Config.Alike (.ok c : Except ConfigError Config)
      (.ok { c with authentication := a }) := .ok ⟨a, rfl⟩
  dsimp only
  split
  · exact both
  · exact Parallel.after _ fun _ => both

end Config

theorem Document.config_alike {d d' : Document} (h : d.Alike d') :
    Parallel Config.Alike d.config d'.config := by
  obtain ⟨s, rfl⟩ := h
  unfold config
  refine Parallel.after _ fun audience => ?_
  refine Parallel.after _ fun subjectTokenType => ?_
  refine Parallel.after _ fun tokenUrl => ?_
  refine Parallel.after _ fun source => ?_
  refine Parallel.after _ fun source => ?_
  exact Config.checked_alike ⟨_, rfl⟩

/-- **Two ways of setting up differ in the secret of the client only.** -/
inductive Setup.Alike (files files' : FileSystem) : Setup → Setup → Prop where
  /-- Two documents. -/
  | document {v v' : Json} (h : v.SecretAlike v') : Alike files files' (.document v) (.document v')
  /-- A file that is the same in both trees, or that neither of them has. -/
  | file {path : String} (h : files.readText path = files'.readText path) :
      Alike files files' (.file path) (.file path)
  /-- A file with two documents. -/
  | documents {path content content' : String} {v v' : Json}
      (read : files.readText path = .ok content) (read' : files'.readText path = .ok content')
      (parsed : Json.parse (Utf8.encode content) = .ok v)
      (parsed' : Json.parse (Utf8.encode content') = .ok v') (h : v.SecretAlike v') :
      Alike files files' (.file path) (.file path)
  /-- A declaration has no secret. -/
  | declaration (d : Declaration) : Alike files files' (.declaration d) (.declaration d)

/-- Two choices of an application that differ in how the client makes itself known. -/
def Options.Alike (o o' : Options) : Prop := ∃ a, o' = { o with authentication := a }

theorem Document.ofFile_alike {files files' : FileSystem} {path : String}
    (h : Setup.Alike files files' (.file path) (.file path)) :
    Parallel Document.Alike (Document.ofFile files path) (Document.ofFile files' path) := by
  unfold Document.ofFile
  cases h with
  | file same =>
    rw [same]
    exact Parallel.of_eq Document.Alike.refl _
  | documents read read' parsed parsed' h =>
    rw [read, read']
    unfold Document.parse
    dsimp only
    rw [parsed, parsed']
    exact Document.ofJson_alike h

/-- A configuration and what is logged about it, and two of both. -/
def Setup.Configured (p p' : Config × List LogRecord) : Prop := p.1.Alike p'.1 ∧ p.2 = p'.2

theorem Setup.configured {c c' : Config} (h : c.Alike c') :
    Configured (c, [setupRecord c]) (c', [setupRecord c']) := by
  obtain ⟨a, rfl⟩ := h
  exact ⟨⟨a, rfl⟩, rfl⟩

/-- **Two setups** are refused with the same error, or make configurations that differ in how the
client makes itself known. -/
theorem Setup.config_alike {files files' : FileSystem} {s s' : Setup}
    (h : s.Alike files files' s') :
    Parallel Setup.Configured (s.config files) (s'.config files') := by
  have accepted {d d' : Document} (drafts : d.Alike d') :
      Parallel Configured (d.config >>= fun c => .ok (c, [setupRecord c]))
        (d'.config >>= fun c => .ok (c, [setupRecord c])) :=
    (Document.config_alike drafts).bind fun _ _ configs => .ok (configured configs)
  cases h with
  | document secret =>
    exact (Document.ofJson_alike secret).bind fun _ _ => accepted
  | file same =>
    exact (Document.ofFile_alike (.file same)).bind fun _ _ => accepted
  | documents read read' parsed parsed' secret =>
    exact (Document.ofFile_alike (.documents read read' parsed parsed' secret)).bind
      fun _ _ => accepted
  | declaration d => exact Parallel.of_eq (fun p => ⟨.refl p.1, rfl⟩) _

/-- Credentials and what is logged about them, and two of both. -/
def Setup.Built (p p' : Credentials × List LogRecord) : Prop := p.1.Alike p'.1 ∧ p.2 = p'.2

theorem Config.credentials_alike {c c' : Config} (h : c.Alike c') {o o' : Options}
    (options : o.Alike o') (environment : Option String) :
    (c.credentials o environment).Alike (c'.credentials o' environment) := by
  obtain ⟨a, rfl⟩ := h
  obtain ⟨b, rfl⟩ := options
  exact ⟨_, rfl⟩

/-- **So do their credentials**, and the same is logged. -/
theorem Setup.build_alike {files files' : FileSystem} {s s' : Setup} (h : s.Alike files files' s')
    {o o' : Options} (options : o.Alike o') (environment : Option String) :
    Parallel Setup.Built (s.build o environment files) (s'.build o' environment files') := by
  refine (config_alike h).bind ?_
  rintro ⟨c, records⟩ ⟨c', _⟩ ⟨configs, rfl⟩
  exact .ok ⟨Config.credentials_alike configs options environment, rfl⟩

/-! ## §3. The log. -/

/-- The errands of all requests that arrive in a run. -/
def Credentials.errands (c : Credentials) (actions : List Credentials.Action) (w : World) :
    List Errand :=
  ((c.session w).arrivals (c.run actions (c.session w))).map (·.errand)

/-- The log of a run, the last record first. -/
def Credentials.log (c : Credentials) (actions : List Credentials.Action) (w : World) :
    List LogRecord :=
  (c.run actions (c.session w)).world.log

theorem Credentials.session_alike {c c' : Credentials} (h : c.Alike c') {errands : List Errand}
    {w w' : World} (worlds : w.Alike c.source errands w') :
    (c.session w).Alike c.source errands (c'.session w') := by
  obtain ⟨a, rfl⟩ := h
  exact ⟨worlds, .refl _, rfl⟩

/-- **The logs of two runs** that differ in secrets only. -/
theorem Credentials.log_alike {c c' : Credentials} (h : c.Alike c')
    {actions actions' : List Credentials.Action}
    (alike : List.Forall₂ (Credentials.Action.Alike c.source) actions actions') {w w' : World}
    (worlds : w.Alike c.source (c.errands actions w) w') :
    List.Forall₂ LogRecord.Alike (c.log actions w) (c'.log actions' w') := by
  obtain ⟨new, arrived, twin⟩ := run_twins h alike (c.session w)
  have errands : c.errands actions w = new.map (·.errand) ++ [] := by
    rw [List.append_nil]
    exact congrArg (List.map (·.errand)) (Session.arrivals_eq arrived)
  rw [errands] at worlds
  exact (twin [] _ (session_alike h worlds)).2.world.log

/-- Logs in which no error is told that tells of a secret do not differ. -/
theorem logs_eq_of_quiet {records records' : List LogRecord}
    (h : List.Forall₂ LogRecord.Alike records records')
    (quiet : ∀ e, e.TellsOfSecret → TokenCache.settleRecord (.error e) ∉ records) :
    records = records' := by
  induction h with
  | nil => rfl
  | @cons r r' rest rest' record _ ih =>
    have later := ih fun e tells told => quiet e tells (List.mem_cons_of_mem r told)
    cases record with
    | same => rw [later]
    | failed apart => exact absurd List.mem_cons_self (quiet _ ⟨_, apart⟩)

/-- **Two credentials log alike**: the same when they are made, and the same records in any two runs
that differ in secrets only, but for warnings that tell of secrets. -/
structure Setup.LogsAlike (made made' : Credentials × List LogRecord) : Prop where
  /-- What is logged when they are made. -/
  setup : made.2 = made'.2
  /-- What is logged when they are used. -/
  runs : ∀ actions actions' w w',
    List.Forall₂ (Credentials.Action.Alike made.1.source) actions actions' →
      w.Alike made.1.source (made.1.errands actions w) w' →
        List.Forall₂ LogRecord.Alike (made.1.log actions w) (made'.1.log actions' w')
  /-- Without such a warning it is the same. -/
  quiet : ∀ actions actions' w w',
    List.Forall₂ (Credentials.Action.Alike made.1.source) actions actions' →
      w.Alike made.1.source (made.1.errands actions w) w' →
        (∀ e, e.TellsOfSecret → TokenCache.settleRecord (.error e) ∉ made.1.log actions w) →
          made.1.log actions w = made'.1.log actions' w'

/-- **No secret is told in a log**, but by warnings about documents that lack a token and answers
that are none: setups that differ in secrets only are refused alike, or their runs log alike. -/
theorem Setup.logs_alike {files files' : FileSystem} {s s' : Setup} (h : s.Alike files files' s')
    {o o' : Options} (options : o.Alike o') (environment : Option String) :
    Parallel Setup.LogsAlike (s.build o environment files) (s'.build o' environment files') := by
  have built := build_alike h options environment
  generalize s.build o environment files = x at built
  generalize s'.build o' environment files' = x' at built
  cases built with
  | failed e => exact .failed e
  | ok both =>
    exact .ok ⟨both.2, fun _ _ _ _ alike worlds => Credentials.log_alike both.1 alike worlds,
      fun _ _ _ _ alike worlds => logs_eq_of_quiet (Credentials.log_alike both.1 alike worlds)⟩

/-! ## §4. Two tenants. -/

namespace Tenants

/-- A document of a client with a secret. -/
def document (secret : String) : Json :=
  .object [("audience", .string "audience"), ("client_id", .string "client"),
    ("client_secret", .string secret),
    ("credential_source", .object [("url", .string "http://idp/token")]),
    ("subject_token_type", .string "type"), ("token_url", .string "http://sts/token"),
    ("type", .string "external_account")]

/-- What stands before the token in an answer. -/
def lead : List UInt8 := Utf8.encode "\x7b\"access_token\":"

/-- An answer of the token endpoint: a token, and for how long it is valid. -/
def answer (token seconds : String) : List UInt8 :=
  lead ++ Utf8.encodeChars (Json.quoted token) ++
    Utf8.encode (",\"expires_in\":" ++ seconds ++ "\x7d")

/-- A reply with a body. -/
def reply (body : List UInt8) : Reply := .respond 200 .empty body true

/-- A world that answers with these bodies. -/
def world (bodies : List (List UInt8)) : World where
  network := ⟨true, bodies.map reply, []⟩
  files := ⟨[], []⟩
  clock := .start
  subjects := [.token "subject"]
  log := []

theorem world_alike {source : SubjectSource} {errands : List Errand}
    {bodies bodies' : List (List UInt8)}
    (h : ScriptsAlike source.format errands (bodies.map reply) (bodies'.map reply)) :
    (world bodies).Alike source errands (world bodies') :=
  ⟨rfl, h, .refl _ _, rfl, .cons (.same _) .nil, .nil⟩

/-- A token is asked for. -/
def actions : List Credentials.Action := [.obtain .current]

/-- Whatever follows `lead` is read as a token. -/
theorem before_lead : TokenAnswer.record.Before "access_token" lead := by
  let field := TokenAnswer.record.fields.head (by decide)
  refine .value field TokenAnswer.record.blank (List.head_mem _) rfl fun rest =>
    ⟨rest.length + 15, by omega, ?_⟩
  have opened : TokenAnswer.record.read Json.depthBound (lead ++ rest) =
      ((field.read (Json.depthBound - 1) TokenAnswer.record.blank rest >>= fun r =>
        TokenAnswer.record.readFields (Json.depthBound - 1) (rest.length + 15) false r.1 r.2) >>=
          fun r => TokenAnswer.record.close r.1 r.2) := rfl
  rw [opened, bind_assoc]
  rfl

/-- Two tokens in the same answer. -/
theorem answer_swap {t t' : String} (legal : isHeaderText t) (legal' : isHeaderText t')
    (seconds : String) :
    TokenAnswer.record.Swap "access_token" isHeaderText (answer t seconds) (answer t' seconds) :=
  .mk before_lead (Json.spells_quoted t) (Json.spells_quoted t') legal legal' _

/-- Two answers that brought tokens. -/
theorem answer_alike {format : SourceFormat} {t t' : String} (legal : isHeaderText t)
    (legal' : isHeaderText t') (seconds : String) :
    (reply (answer t seconds)).Alike format .exchange (reply (answer t' seconds)) :=
  .body .empty true rfl (.single (answer_swap legal legal' seconds))

/-- What the document says. -/
def credentials (secret : String) : Credentials where
  source := .url "http://idp/token" .empty .text
  sts := ⟨"http://sts/token", .basic "client" secret⟩
  impersonationUrl := none
  audience := "audience"
  subjectTokenType := "type"
  scopes := [platformScope]
  quotaProject := none
  policy := .standard
  projectNumber := none
  projectsUrl := standardProjectsUrl

/-- What is logged about it. -/
def records : List LogRecord :=
  [.debug "creating external account credentials"
    [("audience", "audience"), ("impersonation", "false")]]

end Tenants

open Tenants in
/-- Two tenants with secrets, subject tokens and access tokens of their own. -/
theorem logs_alike_for_tenants :
    let w := world [Utf8.encode "subject-a", answer "token-a" "3600"]
    let w' := world [Utf8.encode "subject", answer "token" "3600"]
    (Setup.document (document "secret-a")).build .standard none ⟨[], []⟩
        = .ok (credentials "secret-a", records) ∧
      (Setup.document (document "secret")).build .standard none ⟨[], []⟩
        = .ok (credentials "secret", records) ∧
      w.Alike (credentials "secret-a").source ((credentials "secret-a").errands actions w) w' ∧
      ((credentials "secret-a").log actions w).map (·.message)
        = ["access token refreshed", "fetched subject token", "refreshing access token"] ∧
      List.Forall₂ LogRecord.Alike ((credentials "secret-a").log actions w)
        ((credentials "secret").log actions w') := by
  intro w w'
  have built : (Setup.document (document "secret-a")).build .standard none ⟨[], []⟩
      = .ok (credentials "secret-a", records) := rfl
  have built' : (Setup.document (document "secret")).build .standard none ⟨[], []⟩
      = .ok (credentials "secret", records) := rfl
  have worlds : w.Alike (credentials "secret-a").source
      ((credentials "secret-a").errands actions w) w' := by
    have asked : (credentials "secret-a").errands actions w = [.subjectToken, .exchange] := rfl
    have legal : isHeaderText "token-a" := rfl
    have legal' : isHeaderText "token" := rfl
    rw [asked]
    have subject : (reply (Utf8.encode "subject-a")).Alike .text .subjectToken
        (reply (Utf8.encode "subject")) :=
      .body .empty true rfl (SourceFormat.Alike.text rfl (by decide) (by decide))
    exact world_alike (.reply subject (.reply (answer_alike legal legal' "3600") (.ended [])))
  have secrets : Json.SecretAlike (document "secret-a") (document "secret") :=
    .object (.cons (.same _) (.cons (.same _) (.cons (.secret _ _) (.cons (.same _)
      (.cons (.same _) (.cons (.same _) (.cons (.same _) .nil)))))))
  have setups : Setup.Alike ⟨[], []⟩ ⟨[], []⟩ (.document (document "secret-a"))
      (.document (document "secret")) := .document secrets
  have options : Options.standard.Alike Options.standard := ⟨none, rfl⟩
  have made := Setup.logs_alike setups options none
  rw [built, built'] at made
  cases made with
  | ok logs =>
    exact ⟨built, built', worlds, by decide +kernel,
      logs.runs _ _ _ _ (.cons (.same _) .nil) worlds⟩

namespace Tenants

/-- Credentials whose subject tokens stand in a field of documents. -/
def reader : Credentials :=
  { credentials "secret" with source := .url "http://idp/token" .empty (.json "token") }

/-- A document that has its token elsewhere. -/
def misplaced (token : String) : List UInt8 :=
  Utf8.encode ("\x7b\"other\":\"" ++ token ++ "\"\x7d")

/-- Credentials of an application that brings its own subject tokens. -/
def broker : Credentials := { credentials "secret" with source := .application }

/-- The message of the last record. -/
def lastMessage (records : List LogRecord) : Option String := records.head?.map (·.message)

/-- Two replies with such documents. -/
theorem misplaced_alike :
    (reply (misplaced "subject-a")).Alike reader.source.format .subjectToken
      (reply (misplaced "subject-b")) := by
  have parsed : Json.parse (Utf8.encode (Utf8.decodeLossy (misplaced "subject-a")))
      = .ok (.object [("other", .string "subject-a")]) := rfl
  have parsed' : Json.parse (Utf8.encode (Utf8.decodeLossy (misplaced "subject-b")))
      = .ok (.object [("other", .string "subject-b")]) := rfl
  exact .body .empty true rfl (SourceFormat.Alike.json rfl parsed parsed'
    (.object rfl (.cons (.string (by decide) (by decide)) .nil)))

end Tenants

open Tenants in
/-- **Two warnings tell of secrets**: a document without the field of its token is shown, and a
fault behind an access token is placed two columns further if the token is longer by two. -/
theorem warnings_tell_of_secrets :
    (let w := world [misplaced "subject-a"]
      let w' := world [misplaced "subject-b"]
      w.Alike reader.source (reader.errands actions w) w' ∧
        lastMessage (reader.log actions w) = some ("access token refresh failed: failed to read " ++
          "subject token field `token` as a non-empty string, " ++
          "body=<\x7b\"other\":\"subject-a\"\x7d>") ∧
        reader.log actions w ≠ reader.log actions w') ∧
      let w := world [answer "token-a" "true"]
      let w' := world [answer "token" "true"]
      w.Alike broker.source (broker.errands actions w) w' ∧
        lastMessage (broker.log actions w) = some ("access token refresh failed: failed to " ++
          "exchange subject token, cannot parse response: invalid type: boolean `true`, " ++
          "expected u64 at line 1 column 43") ∧
        broker.log actions w ≠ broker.log actions w' := by
  constructor
  · have asked : reader.errands actions (world [misplaced "subject-a"]) = [.subjectToken] := rfl
    refine ⟨?_, by decide +kernel, by decide +kernel⟩
    rw [asked]
    exact world_alike (.reply misplaced_alike (.ended []))
  · have asked : broker.errands actions (world [answer "token-a" "true"]) = [.exchange] := rfl
    have legal : isHeaderText "token-a" := rfl
    have legal' : isHeaderText "token" := rfl
    refine ⟨?_, by decide +kernel, by decide +kernel⟩
    rw [asked]
    exact world_alike (.reply (answer_alike legal legal' "true") (.ended []))

end WorkloadIdentity
