/-
  WorkloadIdentity.Proofs.Document.Refusals ──── **WHICH FAULT OF A DOCUMENT IS REPORTED.**

  Setting credentials up from a document reports the first check of the list that the document does
  not pass, and succeeds if there is none.  Options, environment and files have no part in it.

      type, kinds                           — `Document.ofJson`
      required names                        — `Document.config`
      format, then file or URL, headers     — `SourceDocument.source`
      endpoints                             — `Config.checked`

  Main results:
    * `Document.isOk_read`, `Document.shows` — when a document can be read, and what it then says
    * `SourceDocument.refusal_of_source`, `Document.refusal_of_config` — the parts of the list
    * `Setup.refused_by_first_check` — the list, for every document and every choice
-/
import WorkloadIdentity.Proofs.Credentials.Terms
import WorkloadIdentity.Proofs.Document.Checks

namespace WorkloadIdentity

/-! ## §1. Reading. -/

open Json (stringOf stringMapOf)

theorem isOk_stringOf (v : Json) : (stringOf v).isOk = isText v := by
  cases v <;> rfl

theorem isOk_mapM {ε α β : Type} (f : α → Except ε β) (l : List α) :
    (l.mapM f).isOk = l.all fun x => (f x).isOk := by
  induction l with
  | nil => rfl
  | cons x rest ih =>
    rw [List.mapM_cons, List.all_cons, ← ih]
    cases f x with
    | error e => rfl
    | ok y =>
      show (rest.mapM f >>= _).isOk = _
      cases rest.mapM f <;> rfl

theorem isOk_stringMapOf (v : Json) : (stringMapOf v).isOk = isTextMap v := by
  cases v with
  | object fields =>
    show (fields.mapM fun f => (stringOf f.2).map fun s => (f.1, s)).isOk = _
    rw [isOk_mapM]
    refine congrArg (fields.all ·) (funext fun f => ?_)
    rw [isOk_map, isOk_stringOf]
  | _ => rfl

theorem isSome_mapM {α β : Type} (f : α → Option β) (l : List α) :
    (l.mapM f).isSome = l.all fun x => (f x).isSome := by
  induction l with
  | nil => rfl
  | cons x rest ih =>
    rw [List.mapM_cons, List.all_cons, ← ih]
    cases f x with
    | none => rfl
    | some y =>
      show (rest.mapM f >>= _).isSome = _
      cases rest.mapM f <;> rfl

theorem isOk_scopesOf (v : Json) : (scopesOf v).isOk = isScopes v := by
  cases v with
  | array items =>
    have texts : (items.mapM fun v => (stringOf v).toOption).isSome = items.all isText := by
      rw [isSome_mapM]
      refine congrArg (items.all ·) (funext fun x => ?_)
      cases x <;> rfl
    show _ = items.all isText
    rw [← texts]
    unfold scopesOf
    dsimp only
    cases items.mapM fun v => (stringOf v).toOption <;> rfl
  | _ => rfl

theorem takes_text {σ : Type} {name : String} {put : σ → Option String → σ} :
    (Json.ValueField.of name (Json.optionalOf stringOf) put).Takes isText :=
  Json.ValueField.takes_of fun v _ => isOk_stringOf v

theorem FormatDocument.follows : record.Follows formatKinds :=
  .cons ⟨rfl, takes_text⟩ <|
  .cons ⟨rfl, takes_text⟩ .nil

theorem FormatDocument.isOk_read {v : Json} (distinct : v.Distinct) :
    (record.read v).isOk = Json.fits formatKinds v :=
  Json.ValueRecord.isOk_read follows (by decide) distinct

theorem SourceDocument.follows : record.Follows sourceKinds :=
  .cons ⟨rfl, takes_text⟩ <|
  .cons ⟨rfl, takes_text⟩ <|
  .cons ⟨rfl, Json.ValueField.takes_of fun v _ => isOk_stringMapOf v⟩ <|
  .cons ⟨rfl, Json.ValueField.takes_of fun _ => FormatDocument.isOk_read⟩ .nil

theorem SourceDocument.isOk_read {v : Json} (distinct : v.Distinct) :
    (record.read v).isOk = Json.fits sourceKinds v :=
  Json.ValueRecord.isOk_read follows (by decide) distinct

theorem Document.follows : record.Follows documentKinds :=
  .cons ⟨rfl, takes_text⟩ <|
  .cons ⟨rfl, takes_text⟩ <|
  .cons ⟨rfl, takes_text⟩ <|
  .cons ⟨rfl, Json.ValueField.takes_of fun _ => SourceDocument.isOk_read⟩ <|
  .cons ⟨rfl, takes_text⟩ <|
  .cons ⟨rfl, takes_text⟩ <|
  .cons ⟨rfl, takes_text⟩ <|
  .cons ⟨rfl, takes_text⟩ <|
  .cons ⟨rfl, Json.ValueField.takes_of fun v _ => isOk_scopesOf v⟩ .nil

/-- **A document can be read exactly if all that is known of it is of its kind.** -/
theorem Document.isOk_read {v : Json} (distinct : v.Distinct) :
    (record.read v).isOk = Json.fits documentKinds v :=
  Json.ValueRecord.isOk_read follows (by decide) distinct

/-- What stands under a name of texts is the text that is shown, or nothing. -/
theorem part?_of_text {σ : Type} {r : Json.ValueRecord σ} {kinds : List (String × (Json → Bool))}
    {name : String} {view : σ → Option String} (shows : r.Shows name view stringOf)
    (follows : r.Follows kinds) (differ : (kinds.map (·.1)).Nodup)
    (member : (name, isText) ∈ kinds) {v : Json} (distinct : v.Distinct) {d : σ}
    (h : r.read v = .ok d) : v.part? kinds name = (view d).map .string := by
  rcases shows.cases_of_read follows differ (fun v _ => isOk_stringOf v) member distinct h with
    ⟨none, unseen⟩ | ⟨x, s, some, -, read, seen⟩
  · rw [none, unseen]
    rfl
  · rw [some, seen]
    cases x with
    | string t =>
      cases read
      rfl
    | _ => cases read

theorem FormatDocument.shows :
    record.Shows "type" (·.type) stringOf ∧
    record.Shows "subject_token_field_name" (·.fieldName) stringOf := by
  refine ⟨⟨rfl, rfl, ⟨_, rfl⟩, ?_⟩, ⟨rfl, rfl, ⟨_, rfl⟩, ?_⟩⟩
  all_goals
    simp only [record, List.forall_mem_cons, List.not_mem_nil, IsEmpty.forall_iff, implies_true,
      and_true]
    refine ⟨?_, ?_⟩
    all_goals first
      | exact Json.ValueField.showsAs_own (fun _ _ => rfl) rfl
      | exact Json.ValueField.showsAs_other (fun _ _ => rfl) (by decide)

theorem SourceDocument.shows :
    record.Shows "file" (·.file) stringOf ∧ record.Shows "url" (·.url) stringOf ∧
    record.Shows "headers" (·.headers) stringMapOf ∧
    record.Shows "format" (·.format) FormatDocument.record.read := by
  refine ⟨⟨rfl, rfl, ⟨_, rfl⟩, ?_⟩, ⟨rfl, rfl, ⟨_, rfl⟩, ?_⟩, ⟨rfl, rfl, ⟨_, rfl⟩, ?_⟩,
    ⟨rfl, rfl, ⟨_, rfl⟩, ?_⟩⟩
  all_goals
    simp only [record, List.forall_mem_cons, List.not_mem_nil, IsEmpty.forall_iff, implies_true,
      and_true]
    refine ⟨?_, ?_, ?_, ?_⟩
    all_goals first
      | exact Json.ValueField.showsAs_own (fun _ _ => rfl) rfl
      | exact Json.ValueField.showsAs_other (fun _ _ => rfl) (by decide)

/-- **What a document says is what stands under its names.** -/
theorem Document.shows :
    record.Shows "audience" (·.audience) stringOf ∧
    record.Shows "subject_token_type" (·.subjectTokenType) stringOf ∧
    record.Shows "token_url" (·.tokenUrl) stringOf ∧
    record.Shows "credential_source" (·.source) SourceDocument.record.read ∧
    record.Shows "service_account_impersonation_url" (·.impersonationUrl) stringOf := by
  refine ⟨⟨rfl, rfl, ⟨_, rfl⟩, ?_⟩, ⟨rfl, rfl, ⟨_, rfl⟩, ?_⟩, ⟨rfl, rfl, ⟨_, rfl⟩, ?_⟩,
    ⟨rfl, rfl, ⟨_, rfl⟩, ?_⟩, ⟨rfl, rfl, ⟨_, rfl⟩, ?_⟩⟩
  all_goals
    simp only [record, List.forall_mem_cons, List.not_mem_nil, IsEmpty.forall_iff, implies_true,
      and_true]
    refine ⟨?_, ?_, ?_, ?_, ?_, ?_, ?_, ?_, ?_⟩
    all_goals first
      | exact Json.ValueField.showsAs_own (fun _ _ => rfl) rfl
      | exact Json.ValueField.showsAs_other (fun _ _ => rfl) (by decide)

/-! ## §2. The checks, one part after the other. -/

theorem refusal_of_checkType (v : Json) : refusal? (checkType v) = firstRefusal typeChecks v := by
  unfold checkType typeChecks
  rw [firstRefusal_cons, firstRefusal_cons]
  dsimp only
  generalize v.field? "type" = found
  cases found with
  | none => rfl
  | some x =>
    cases x with
    | string t =>
      by_cases known : t = "external_account"
      · subst known
        rfl
      · have other : isKnownType (some (.string t)) = false := beq_false_of_ne known
        have other' : ¬ t = documentType := known
        dsimp only
        rw [other, if_neg other']
        rfl
    | _ => rfl

theorem refusal_of_required {α : Type} {v : Json} {name : String} {x : Option α}
    (same : x.isSome = (part? name v).isSome) :
    refusal? (required name x) = firstRefusal [requiredCheck name] v := by
  rw [firstRefusal_cons]
  unfold requiredCheck
  dsimp only
  rw [← same]
  cases x <;> rfl

theorem refusal_of_checkUrl (field value : String) :
    refusal? (checkUrl field value)
      = bif isAbsolute (some (.string value)) then none else some (.of .parsing) := by
  have asked : isAbsolute (some (.string value)) = (Url.parse value).isOk := rfl
  rw [asked]
  unfold checkUrl
  cases Url.parse value <;> rfl

/-- The checks of a format, for the texts of its fields. -/
theorem SourceFormat.refusal_of_texts (type name : Option String) :
    refusal? (ofDocument (some ⟨type, name⟩))
      = bif isFormatType (type.map .string) then
          bif namesField (type.map .string) (name.map .string) then none
          else some (.missing "credential_source.format.subject_token_field_name")
        else some (.of .invalidSource) := by
  unfold ofDocument
  dsimp only
  -- no type, text, JSON, and any other type
  split
  case h_1 => rfl
  case h_2 => rfl
  case h_3 =>
    cases name with
    | none => rfl
    | some n =>
      have named : namesField (some (.string "json")) (some (.string n)) = (n != "") := rfl
      show _ = bif isFormatType (some (.string "json")) then
        bif namesField (some (.string "json")) (some (.string n)) then _ else _ else _
      rw [named]
      by_cases empty : n = ""
      · subst empty
        rfl
      · have full : (n != "") = true := bne_iff_ne.mpr empty
        dsimp only
        rw [full, if_neg empty]
        rfl
  case h_4 t text json =>
    have unknown : isFormatType (some (.string t)) = false := by
      show (t == "text" || t == "json") = false
      rw [beq_false_of_ne text, beq_false_of_ne json]
      rfl
    show _ = bif isFormatType (some (.string t)) then _ else _
    rw [unknown]
    rfl

section Source

variable {v sv : Json} {src : SourceDocument}

theorem sourcePart?_eq (here : part? "credential_source" v = some sv) (name : String) :
    sourcePart? name v = sv.part? sourceKinds name := by
  unfold sourcePart?
  rw [here]
  rfl

/-- **The format of a source** passes its checks exactly if it is one, and the first check it does
not pass is reported. -/
theorem SourceDocument.refusal_of_format (here : part? "credential_source" v = some sv)
    (distinct : sv.Distinct) (read : record.read sv = .ok src) :
    refusal? (SourceFormat.ofDocument src.format) = firstRefusal formatChecks v := by
  unfold formatChecks
  rw [firstRefusal_cons, firstRefusal_cons]
  unfold formatPart?
  dsimp only
  rw [sourcePart?_eq here]
  rcases shows.2.2.2.cases_of_read follows (by decide) (fun _ => FormatDocument.isOk_read)
    (by simp [sourceKinds]) distinct read with ⟨none, unseen⟩ | ⟨fv, f, some, solid, read', seen⟩
  · rw [none, unseen]
    rfl
  · rw [some, seen, Option.bind_some, Option.bind_some,
      part?_of_text FormatDocument.shows.1 FormatDocument.follows (by decide)
        (by simp [formatKinds]) solid read',
      part?_of_text FormatDocument.shows.2 FormatDocument.follows (by decide)
        (by simp [formatKinds]) solid read']
    exact SourceFormat.refusal_of_texts f.type f.fieldName

/-- The fields of an object of texts are what has been read of it. -/
theorem eq_of_texts {fields : List (String × Json)} {pairs : List (String × String)}
    (h : (fields.mapM fun f => (stringOf f.2).map fun s => (f.1, s)) = .ok pairs) :
    fields = pairs.map fun p => (p.1, .string p.2) := by
  induction fields generalizing pairs with
  | nil =>
    cases h
    rfl
  | cons f rest ih =>
    rw [List.mapM_cons] at h
    obtain ⟨p, one, h⟩ := exists_of_bind_ok h
    obtain ⟨others, more, h⟩ := exists_of_bind_ok h
    cases h
    obtain ⟨s, text, rfl⟩ := exists_of_map_ok one
    obtain ⟨name, v⟩ := f
    cases v with
    | string t =>
      cases text
      rw [List.map_cons, ← ih more]
    | _ => cases text

theorem SubjectSource.refusal_of_urlHeaders (pairs : List (String × String)) :
    refusal? (urlHeaders pairs)
      = bif pairs.all fun p => isHeader p.1 p.2 then none else some (.of .invalidSource) := by
  unfold urlHeaders
  -- a header is refused or not whatever has been added before it
  generalize Headers.empty = h
  induction pairs generalizing h with
  | nil => rfl
  | cons p rest ih =>
    obtain ⟨name, value⟩ := p
    unfold urlHeaders.add
    rw [List.all_cons]
    unfold isHeader
    dsimp only
    cases HeaderName.ofString? name with
    | none => rfl
    | some n =>
      cases HeaderValue.ofString? value with
      | none => rfl
      | some v => exact ih (h.append n v)

/-- What is sent to a URL can be sent exactly if all of it can. -/
theorem SourceDocument.areHeaders_eq (distinct : sv.Distinct) (read : record.read sv = .ok src) :
    areHeaders (sv.part? sourceKinds "headers")
      = (src.headers.getD []).all fun p => isHeader p.1 p.2 := by
  rcases shows.2.2.1.cases_of_read follows (by decide) (fun v _ => isOk_stringMapOf v)
    (by simp [sourceKinds]) distinct read with ⟨none, unseen⟩ | ⟨hv, pairs, some, -, read', seen⟩
  · rw [none, unseen]
    rfl
  · rw [some, seen]
    cases hv with
    | object fields =>
      rw [eq_of_texts read']
      show (pairs.map _).all _ = pairs.all _
      rw [List.all_map]
      rfl
    | _ => cases read'

/-- **Where a source lies** passes its checks exactly if it is a file, or a URL that can be
asked. -/
theorem SourceDocument.refusal_of_origin (here : part? "credential_source" v = some sv)
    (distinct : sv.Distinct) (read : record.read sv = .ok src) (format : SourceFormat) :
    refusal? (match src.file, src.url with
      | some path, none => .ok (.file path format)
      | none, some url => do
        checkUrl "credential_source.url" url
        .ok (.url url (← SubjectSource.urlHeaders (src.headers.getD [])) format)
      | some _, some _ => .error (.sourceCount true)
      | none, none => .error (.sourceCount false) : Except ConfigError SubjectSource)
      = firstRefusal originChecks v := by
  have file := part?_of_text shows.1 follows (by decide) (by simp [sourceKinds]) distinct read
  have url := part?_of_text shows.2.1 follows (by decide) (by simp [sourceKinds]) distinct read
  have headers := areHeaders_eq distinct read
  unfold originChecks
  rw [firstRefusal_cons, firstRefusal_cons, firstRefusal_cons]
  dsimp only
  rw [sourcePart?_eq here, sourcePart?_eq here, sourcePart?_eq here, file, url, headers]
  -- only a URL alone has more checks than the count
  cases src.file with
  | some path => cases src.url <;> rfl
  | none =>
    cases src.url with
    | none => rfl
    | some address =>
      have asked := refusal_of_checkUrl "credential_source.url" address
      have sent := SubjectSource.refusal_of_urlHeaders (src.headers.getD [])
      have whole : refusal? (do
          checkUrl "credential_source.url" address
          .ok (.url address (← SubjectSource.urlHeaders (src.headers.getD [])) format) :
            Except ConfigError SubjectSource) = _ :=
        refusal?_bind asked fun _ _ => refusal?_bind_last sent fun _ => rfl
      refine whole.trans ?_
      show _ = bif isAbsolute (some (.string address)) then
        bif (src.headers.getD []).all fun p => isHeader p.1 p.2 then none else _ else _
      cases isAbsolute (some (.string address)) with
      | false => rfl
      | true => cases (src.headers.getD []).all fun p => isHeader p.1 p.2 <;> rfl

/-- **A source** passes its checks exactly if it can be used. -/
theorem SourceDocument.refusal_of_source (here : part? "credential_source" v = some sv)
    (distinct : sv.Distinct) (read : record.read sv = .ok src) :
    refusal? src.source = firstRefusal (formatChecks ++ originChecks) v := by
  rw [firstRefusal_append]
  exact refusal?_bind (refusal_of_format here distinct read) fun format _ =>
    refusal_of_origin here distinct read format

end Source

/-! ## §3. The whole list. -/

section Whole

variable {v : Json} {d : Document}

/-- The endpoints of a configuration pass their checks exactly if they have schemes. -/
theorem Config.refusal_of_checked {k : Config}
    (token : part? "token_url" v = some (.string k.tokenUrl))
    (service : part? "service_account_impersonation_url" v = k.impersonationUrl.map .string) :
    refusal? k.checked = firstRefusal endpointChecks v := by
  unfold endpointChecks
  rw [firstRefusal_cons, firstRefusal_cons]
  dsimp only
  rw [token, service]
  have asked := refusal_of_checkUrl "token_url" k.tokenUrl
  unfold checked
  cases k.impersonationUrl with
  | none =>
    refine (refusal?_bind_last asked fun _ => rfl).trans ?_
    cases isAbsolute (some (.string k.tokenUrl)) <;> rfl
  | some url =>
    have asked' := refusal_of_checkUrl "service_account_impersonation_url" url
    refine (refusal?_bind asked fun _ _ => refusal?_bind_last asked' fun _ => rfl).trans ?_
    show _ = bif _ then bif isAbsolute (some (.string url)) then _ else _ else _
    cases isAbsolute (some (.string k.tokenUrl)) with
    | false => rfl
    | true => cases isAbsolute (some (.string url)) <;> rfl

/-- **What a document says** passes its checks exactly if it makes a configuration. -/
theorem Document.refusal_of_config (distinct : v.Distinct) (read : record.read v = .ok d) :
    refusal? d.config
      = firstRefusal (requiredChecks ++ (formatChecks ++ (originChecks ++ endpointChecks))) v := by
  obtain ⟨shows_audience, shows_type, shows_token, shows_source, shows_service⟩ := shows
  have text : ∀ {name : String} {view : Document → Option String},
      record.Shows name view stringOf → (name, isText) ∈ documentKinds →
        part? name v = (view d).map .string :=
    fun shown member => part?_of_text shown follows (by decide) member distinct read
  have audience := text shows_audience (by simp [documentKinds])
  have type := text shows_type (by simp [documentKinds])
  have token := text shows_token (by simp [documentKinds])
  have service := text shows_service (by simp [documentKinds])
  have source := shows_source.cases_of_read follows (by decide)
    (fun _ => SourceDocument.isOk_read) (by simp [documentKinds]) distinct read
  have parts : firstRefusal (requiredChecks ++ (formatChecks ++ (originChecks ++ endpointChecks))) v
      = (firstRefusal [requiredCheck "audience"] v).or
        ((firstRefusal [requiredCheck "subject_token_type"] v).or
        ((firstRefusal [requiredCheck "token_url"] v).or
        ((firstRefusal [requiredCheck "credential_source"] v).or
        ((firstRefusal (formatChecks ++ originChecks) v).or
        (firstRefusal endpointChecks v))))) := by
    rw [← firstRefusal_append, ← firstRefusal_append, ← firstRefusal_append, ← firstRefusal_append,
      ← firstRefusal_append, List.append_assoc]
    rfl
  rw [parts]
  unfold config
  -- the required names in the order in which they are looked for
  refine refusal?_bind (refusal_of_required (by rw [audience, Option.isSome_map])) fun _ _ => ?_
  refine refusal?_bind (refusal_of_required (by rw [type, Option.isSome_map])) fun _ _ => ?_
  refine refusal?_bind (refusal_of_required (by rw [token, Option.isSome_map])) fun url hurl => ?_
  -- without a source nothing after it is looked at
  rcases source with ⟨none, unseen⟩ | ⟨sv, src, given, solid, read', seen⟩
  · have missing : d.source.isSome = (part? "credential_source" v).isSome := by
      rw [unseen, show part? "credential_source" v = _ from none]
      rfl
    refine refusal?_bind (refusal_of_required missing) fun _ found => ?_
    rw [unseen] at found
    cases found
  · have here : d.source.isSome = (part? "credential_source" v).isSome := by
      rw [seen, show part? "credential_source" v = _ from given]
      rfl
    refine refusal?_bind (refusal_of_required here) fun _ found => ?_
    rw [seen] at found
    cases found
    refine refusal?_bind (SourceDocument.refusal_of_source given solid read') fun _ _ =>
      Config.refusal_of_checked ?_ service
    rw [token, eq_some_of_required hurl]
    rfl

theorem Document.refusal_of_ofJson (distinct : v.Distinct) :
    refusal? (ofJson v) = firstRefusal (typeChecks ++ [kindCheck]) v := by
  rw [firstRefusal_append]
  refine refusal?_bind (refusal_of_checkType v) fun _ _ => ?_
  have kinds : kindCheck.passes v = (record.read v).isOk := (isOk_read distinct).symm
  rw [firstRefusal_cons, kinds]
  cases record.read v <;> rfl

theorem Document.read_of_ofJson (h : ofJson v = .ok d) : record.read v = .ok d := by
  obtain ⟨_, -, h⟩ := exists_of_bind_ok h
  cases read : record.read v with
  | error m =>
    rw [read] at h
    cases h
  | ok d' =>
    rw [read] at h
    cases h
    rfl

/-- **Setting credentials up** reports the first check that a document does not pass. -/
theorem Setup.refusal_of_document (distinct : v.Distinct) (o : Options)
    (environment : Option String) (files : FileSystem) :
    refusal? ((document v).build o environment files) = firstRefusal documentChecks v := by
  have config : refusal? ((document v).config files) = firstRefusal documentChecks v := by
    have parts : documentChecks = (typeChecks ++ [kindCheck]) ++
        (requiredChecks ++ (formatChecks ++ (originChecks ++ endpointChecks))) := rfl
    rw [parts, firstRefusal_append]
    refine refusal?_bind (Document.refusal_of_ofJson distinct) fun d read => ?_
    have said := Document.refusal_of_config distinct (Document.read_of_ofJson read)
    exact refusal?_bind_last said fun _ => rfl
  -- what comes after the configuration cannot fail
  exact refusal?_bind_last config fun _ => rfl

/-- **The first check that a document does not pass is reported**, whatever has been chosen; and a
retouched document is reported alike, whatever has been chosen then.  Names differ in every value
that is read from a text. -/
theorem Setup.refused_by_first_check (distinct : v.Distinct) (o : Options)
    (environment : Option String) (files : FileSystem) :
    refusal? ((document v).build o environment files) = firstRefusal documentChecks v ∧
    ∀ {v' : Json}, v'.Distinct → Document.Retouch v v' →
      ∀ (o' : Options) (environment' : Option String) (files' : FileSystem),
        refusal? ((document v').build o' environment' files')
          = refusal? ((document v).build o environment files) := by
  have first := refusal_of_document distinct o environment files
  refine ⟨first, fun distinct' retouch o' environment' files' => ?_⟩
  rw [first, refusal_of_document distinct' o' environment' files']
  exact (firstRefusal_congr fun c listed => retouch.passes distinct distinct' listed).symm

end Whole

/-! ## §4. Three faults, of which one is reported. -/

namespace ThreeFaults

/-- The format names no field, the token endpoint has no scheme, and headers with a blank in their
names could not be sent. -/
def written (headers : Json) : Json := .object
  [("type", .string "external_account"), ("audience", .string "pool"),
    ("subject_token_type", .string "jwt"), ("token_url", .string "sts"),
    ("credential_source", .object
      [("file", .string "/token"), ("headers", headers),
        ("format", .object [("type", .string "json")])])]

/-- Headers that could not be sent. -/
def unsendable : Json := .object [("a b", .string "c")]

theorem distinct (headers : Json) (h : headers.Distinct) : (written headers).Distinct := by
  refine .object (by simp) ?_
  simp only [List.forall_mem_cons, List.not_mem_nil, IsEmpty.forall_iff, implies_true, and_true]
  refine ⟨.string _, .string _, .string _, .string _, .object (by simp) ?_⟩
  simp only [List.forall_mem_cons, List.not_mem_nil, IsEmpty.forall_iff, implies_true, and_true]
  exact ⟨.string _, h, .object (by simp) (by simpa using .string _)⟩

theorem retouch {headers headers' : Json} (h : isTextMap headers = true)
    (h' : isTextMap headers' = true) : Document.Retouch (written headers) (written headers') :=
  .object <| .under [_, _, _, _] [] <| .source
    ⟨_, _, rfl, rfl, .under [_] [_] (.headers rfl (by rw [h, h', Bool.or_true, Bool.or_true]))⟩

end ThreeFaults

open ThreeFaults in
/-- Only the format is reported: the endpoint comes later, and headers do not count for a file. -/
theorem Setup.refused_by_first_check_of_format :
    (written unsendable).Distinct ∧ (written (.object [])).Distinct ∧
    Document.Retouch (written unsendable) (written (.object [])) ∧
    refusal? ((document (written unsendable)).build .standard none ⟨[], []⟩)
      = some (.missing "credential_source.format.subject_token_field_name") ∧
    refusal? ((document (written (.object []))).build .standard (some "p") ⟨[], []⟩)
      = some (.missing "credential_source.format.subject_token_field_name") := by
  have here := distinct unsendable (.object (by simp) (by simpa using .string _))
  have there := distinct (.object []) (.object (by simp) (by simp))
  have touched := retouch (rfl : isTextMap unsendable = true) (rfl : isTextMap (.object []) = true)
  have ⟨first, alike⟩ := refused_by_first_check here .standard none ⟨[], []⟩
  have found : firstRefusal documentChecks (written unsendable)
      = some (.missing "credential_source.format.subject_token_field_name") := by
    decide +kernel
  exact ⟨here, there, touched, first.trans found,
    (alike there touched .standard (some "p") ⟨[], []⟩).trans (first.trans found)⟩

end WorkloadIdentity
