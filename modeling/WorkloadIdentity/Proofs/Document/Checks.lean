/-
  WorkloadIdentity.Proofs.Document.Checks ──── **THE CHECKS OF A DOCUMENT.**

  Whether credentials can be set up from a document is a matter of checks in a fixed order.  Each
  check is stated on the document itself, by what stands in it under which name, and says what is
  reported if the document does not pass.

  A document can be retouched without any check noticing:

      order    — names come in another order
      unknown  — a name that nobody knows is there as well
      headers  — where no URL is asked, what would be sent is something else of the same kind

  Main results:
    * `documentChecks`          — the list
    * `Document.Retouch.passes` — a retouched document passes the same checks
-/
import WorkloadIdentity.Document
import WorkloadIdentity.Proofs.Json.Fields

namespace WorkloadIdentity

/-! ## §1. What is reported. -/

/-- What is reported: a category, and the name of a field that is missing. -/
structure Refusal where
  /-- The category. -/
  category : ConfigError.Category
  /-- The field that is missing. -/
  field : Option String
  deriving DecidableEq

/-- A refusal that names no field. -/
def Refusal.of (category : ConfigError.Category) : Refusal := ⟨category, none⟩

/-- The refusal of a document that misses a field. -/
def Refusal.missing (field : String) : Refusal := ⟨.missingField, some field⟩

/-- What a cause is reported as. -/
def ConfigError.refusal : ConfigError → Refusal
  | .missing field => .missing field
  | e => .of e.category

/-- What is reported of a result; nothing, if it is a success. -/
def refusal? {α : Type} : Except ConfigError α → Option Refusal
  | .ok _ => none
  | .error e => some e.refusal

/-- A check of a document, and what is reported if the document does not pass it. -/
structure Check where
  /-- Whether a document passes. -/
  passes : Json → Bool
  /-- What is reported otherwise. -/
  refusal : Refusal

/-- **The refusal of the first check** that a document does not pass. -/
def firstRefusal (checks : List Check) (v : Json) : Option Refusal :=
  (checks.find? fun c => !c.passes v).map (·.refusal)

theorem firstRefusal_append (checks more : List Check) (v : Json) :
    firstRefusal (checks ++ more) v = (firstRefusal checks v).or (firstRefusal more v) := by
  unfold firstRefusal
  rw [List.find?_append, Option.map_or]

theorem firstRefusal_cons (c : Check) (more : List Check) (v : Json) :
    firstRefusal (c :: more) v = bif c.passes v then firstRefusal more v else some c.refusal := by
  unfold firstRefusal
  rw [List.find?_cons]
  cases c.passes v <;> rfl

theorem firstRefusal_congr {checks : List Check} {v v' : Json}
    (same : ∀ c ∈ checks, c.passes v = c.passes v') :
    firstRefusal checks v = firstRefusal checks v' := by
  induction checks with
  | nil => rfl
  | cons c more ih =>
    rw [firstRefusal_cons, firstRefusal_cons, same c List.mem_cons_self,
      ih fun d listed => same d (List.mem_cons_of_mem c listed)]

/-- One step after the other: the second one counts only after a success. -/
theorem refusal?_bind {α β : Type} {x : Except ConfigError α} {f : α → Except ConfigError β}
    {now later : Option Refusal} (first : refusal? x = now)
    (second : ∀ a, x = .ok a → refusal? (f a) = later) : refusal? (x >>= f) = now.or later := by
  subst first
  cases x with
  | error e => rfl
  | ok a => exact second a rfl

/-- A last step that cannot fail does not count. -/
theorem refusal?_bind_last {α β : Type} {x : Except ConfigError α} {f : α → Except ConfigError β}
    {now : Option Refusal} (first : refusal? x = now) (last : ∀ a, refusal? (f a) = none) :
    refusal? (x >>= f) = now :=
  (refusal?_bind first fun a _ => last a).trans Option.or_none

/-! ## §2. Kinds. -/

/-- A text. -/
def isText : Json → Bool
  | .string _ => true
  | _ => false

/-- An object of texts. -/
def isTextMap : Json → Bool
  | .object fields => fields.all fun f => isText f.2
  | _ => false

/-- A text, or a sequence of texts. -/
def isScopes : Json → Bool
  | .string _ => true
  | .array items => items.all isText
  | _ => false

/-- The names of a format, and the kinds of what stands under them. -/
def formatKinds : List (String × (Json → Bool)) :=
  [("type", isText), ("subject_token_field_name", isText)]

/-- The names of a source. -/
def sourceKinds : List (String × (Json → Bool)) :=
  [("file", isText), ("url", isText), ("headers", isTextMap), ("format", Json.fits formatKinds)]

/-- The names of a document. -/
def documentKinds : List (String × (Json → Bool)) :=
  [("audience", isText), ("subject_token_type", isText), ("token_url", isText),
    ("credential_source", Json.fits sourceKinds), ("client_id", isText), ("client_secret", isText),
    ("service_account_impersonation_url", isText), ("quota_project_id", isText),
    ("scopes", isScopes)]

/-- What stands under a name of a document; null counts as nothing. -/
def part? (name : String) (v : Json) : Option Json := v.part? documentKinds name

/-- What stands under a name of the source. -/
def sourcePart? (name : String) (v : Json) : Option Json :=
  (part? "credential_source" v).bind (Json.part? sourceKinds name)

/-- What stands under a name of the format of the source. -/
def formatPart? (name : String) (v : Json) : Option Json :=
  (sourcePart? "format" v).bind (Json.part? formatKinds name)

/-! ## §3. Checks. -/

/-- The one type that there is. -/
def isKnownType : Option Json → Bool
  | some (.string t) => t == "external_account"
  | _ => false

/-- The type is there, and is the known one. -/
def typeChecks : List Check :=
  [⟨fun v => (v.field? "type").isSome, .missing "type"⟩,
    ⟨fun v => isKnownType (v.field? "type"), .of .unknownType⟩]

/-- What stands under a known name is of its kind, at every level. -/
def kindCheck : Check := ⟨Json.fits documentKinds, .of .parsing⟩

/-- A name is there. -/
def requiredCheck (name : String) : Check := ⟨fun v => (part? name v).isSome, .missing name⟩

/-- The names that must be there, in this order. -/
def requiredChecks : List Check :=
  ["audience", "subject_token_type", "token_url", "credential_source"].map requiredCheck

/-- The types of formats; without a type the format is text. -/
def isFormatType : Option Json → Bool
  | some (.string t) => t == "text" || t == "json"
  | _ => true

/-- A format of the type JSON names a field. -/
def namesField : Option Json → Option Json → Bool
  | some (.string "json"), some (.string name) => name != ""
  | some (.string "json"), _ => false
  | _, _ => true

/-- The format is of a known type; if it is JSON, a field is named. -/
def formatChecks : List Check :=
  [⟨fun v => isFormatType (formatPart? "type" v), .of .invalidSource⟩,
    ⟨fun v => namesField (formatPart? "type" v) (formatPart? "subject_token_field_name" v),
      .missing "credential_source.format.subject_token_field_name"⟩]

/-- A text, if there is one, is a URL with a scheme. -/
def isAbsolute : Option Json → Bool
  | some (.string url) => (Url.parse url).isOk
  | _ => true

/-- A name and a value can be sent as a header. -/
def isHeader (name value : String) : Bool :=
  (HeaderName.ofString? name).isSome && (HeaderValue.ofString? value).isSome

/-- All fields of an object can be sent as headers. -/
def areHeaders : Option Json → Bool
  | some (.object fields) => fields.all fun f =>
    match f.2 with
    | .string value => isHeader f.1 value
    | _ => false
  | _ => true

/-- There is exactly one of a file and a URL; a URL has a scheme, and can be asked. -/
def originChecks : List Check :=
  [⟨fun v => (sourcePart? "file" v).isSome != (sourcePart? "url" v).isSome, .of .invalidSource⟩,
    ⟨fun v => isAbsolute (sourcePart? "url" v), .of .parsing⟩,
    ⟨fun v => (sourcePart? "url" v).isNone || areHeaders (sourcePart? "headers" v),
      .of .invalidSource⟩]

/-- The token endpoint and that of the service account have schemes. -/
def endpointChecks : List Check :=
  [⟨fun v => isAbsolute (part? "token_url" v), .of .parsing⟩,
    ⟨fun v => isAbsolute (part? "service_account_impersonation_url" v), .of .parsing⟩]

/-- **All checks of a document**, in their order. -/
def documentChecks : List Check :=
  typeChecks ++
    (kindCheck :: (requiredChecks ++ (formatChecks ++ (originChecks ++ endpointChecks))))

/-! ## §4. Retouches. -/

/-- **Retouches** of fields, where these names are known: another order, one more name, or a touch
of what stands under a name, which may depend on the other fields. -/
inductive Fields.Retouch (names : List String)
    (touch : List (String × Json) → String → Json → Json → Prop) :
    List (String × Json) → List (String × Json) → Prop where
  /-- Another order. -/
  | order {fields fields' : List (String × Json)} (same : fields.Perm fields') :
      Retouch names touch fields fields'
  /-- One more name. -/
  | unknown {name : String} (new : name ∉ names) (v : Json) (fields : List (String × Json)) :
      Retouch names touch fields ((name, v) :: fields)
  /-- A touch under a name. -/
  | under (before after : List (String × Json)) {name : String} {v v' : Json}
      (h : touch (before ++ after) name v v') :
      Retouch names touch (before ++ (name, v) :: after) (before ++ (name, v') :: after)

/-- A record with retouched fields. -/
def Json.Retouch (names : List String)
    (touch : List (String × Json) → String → Json → Json → Prop) (v v' : Json) : Prop :=
  ∃ fields fields', v.fieldsAs? names = some fields ∧ v'.fieldsAs? names = some fields' ∧
    Fields.Retouch names touch fields fields'

/-- A format is retouched by its order and by unknown names only. -/
def FormatDocument.Retouch : Json → Json → Prop :=
  Json.Retouch (formatKinds.map (·.1)) fun _ _ _ _ => False

/-- What may be touched in a source. -/
inductive SourceDocument.Touch (others : List (String × Json)) : String → Json → Json → Prop where
  /-- A retouched format. -/
  | format {v v' : Json} (h : FormatDocument.Retouch v v') : Touch others "format" v v'
  /-- Headers in another order. -/
  | order {fields fields' : List (String × Json)} (same : fields.Perm fields') :
      Touch others "headers" (.object fields) (.object fields')
  /-- Other headers of the same kind, where there is no URL. -/
  | headers {v v' : Json} (unasked : Json.given? "url" others = none)
      (kind : (v.isNull || isTextMap v) = (v'.isNull || isTextMap v')) :
      Touch others "headers" v v'

/-- A retouched source. -/
def SourceDocument.Retouch : Json → Json → Prop :=
  Json.Retouch (sourceKinds.map (·.1)) Touch

/-- What may be touched in a document. -/
inductive Document.Touch (others : List (String × Json)) : String → Json → Json → Prop where
  /-- A retouched source. -/
  | source {v v' : Json} (h : SourceDocument.Retouch v v') : Touch others "credential_source" v v'

/-- **A retouched document.** -/
inductive Document.Retouch : Json → Json → Prop where
  /-- Its fields are retouched. -/
  | object {fields fields' : List (String × Json)}
      (h : Fields.Retouch ("type" :: documentKinds.map (·.1)) Touch fields fields') :
      Retouch (.object fields) (.object fields')

/-! ## §5. What a retouch leaves. -/

section Left

variable {names : List String} {touch : List (String × Json) → String → Json → Json → Prop}
  {fields fields' before after : List (String × Json)} {name : String} {v v' : Json}

open Json (field?)

theorem Fields.field?_of_perm (own : (fields.map (·.1)).Nodup) (same : fields.Perm fields')
    (name : String) : field? name (.object fields) = field? name (.object fields') := by
  have own' := (same.map (·.1)).nodup_iff.mp own
  refine Option.ext fun v => ?_
  rw [Json.field?_eq_some_iff own, Json.field?_eq_some_iff own', same.mem_iff]

theorem Fields.field?_middle (v : Json) (before after : List (String × Json))
    {name other : String} (differ : name ≠ other) :
    field? other (.object (before ++ (name, v) :: after))
      = field? other (.object (before ++ after)) := by
  dsimp only [field?]
  rw [List.find?_append, List.find?_append, List.find?_cons_of_neg (by simpa using differ)]

/-- **What a retouch leaves**: all that stands under a known name, or all but what has been
touched. -/
theorem Fields.Retouch.left (h : Retouch names touch fields fields')
    (own : (fields.map (·.1)).Nodup) (own' : (fields'.map (·.1)).Nodup) :
    (∀ n ∈ names, field? n (.object fields) = field? n (.object fields')) ∨
    ∃ others name v v', touch others name v v' ∧ field? name (.object fields) = some v ∧
      field? name (.object fields') = some v' ∧ ∀ n, name ≠ n →
        field? n (.object fields) = field? n (.object others) ∧
        field? n (.object fields') = field? n (.object others) := by
  cases h with
  | order same => exact .inl fun n _ => field?_of_perm own same n
  | unknown new v fields =>
    exact .inl fun n known =>
      (field?_middle v [] fields fun same => new (by rw [same]; exact known)).symm
  | @under before after name v v' h =>
    refine .inr ⟨before ++ after, name, v, v', h, ?_, ?_, fun n differ => ⟨?_, ?_⟩⟩
    · exact (Json.field?_eq_some_iff own).mpr (List.mem_append_right _ List.mem_cons_self)
    · exact (Json.field?_eq_some_iff own').mpr (List.mem_append_right _ List.mem_cons_self)
    · exact field?_middle v before after differ
    · exact field?_middle v' before after differ

/-- What stands under a name of a record, told by its fields. -/
theorem Json.part?_eq {kinds : List (String × (Json → Bool))}
    (has : v.fieldsAs? (kinds.map (·.1)) = some fields) (name : String) :
    v.part? kinds name = (field? name (.object fields)).filter fun x => !x.isNull := by
  unfold part?
  rw [has]
  rfl

/-- What is retouched is something. -/
theorem Json.Retouch.shown (h : Retouch names touch v v') :
    (some v).filter (fun x => !x.isNull) = some v ∧
    (some v').filter (fun x => !x.isNull) = some v' := by
  obtain ⟨_, _, has, has', -⟩ := h
  exact ⟨Option.filter_some_pos (by rw [isNull_of_fieldsAs? has]; rfl),
    Option.filter_some_pos (by rw [isNull_of_fieldsAs? has']; rfl)⟩

/-- Two formats are alike for the checks. -/
structure FormatDocument.Alike (f f' : Option Json) : Prop where
  /-- Both fit, or neither does. -/
  fit : f.all (Json.fits formatKinds) = f'.all (Json.fits formatKinds)
  /-- The same stands under each name. -/
  part : ∀ k ∈ formatKinds,
    f.bind (Json.part? formatKinds k.1) = f'.bind (Json.part? formatKinds k.1)

theorem FormatDocument.Alike.of_eq {f f' : Option Json} (same : f = f') : Alike f f' := by
  subst same
  exact ⟨rfl, fun _ _ => rfl⟩

theorem FormatDocument.Retouch.alike (h : Retouch v v') (distinct : v.Distinct)
    (distinct' : v'.Distinct) : Alike (some v) (some v') := by
  obtain ⟨fields, fields', has, has', touched⟩ := h
  have own := (Json.nodup_of_fieldsAs? (by decide) distinct has).1
  have own' := (Json.nodup_of_fieldsAs? (by decide) distinct' has').1
  rcases touched.left own own' with same | ⟨_, _, _, _, none, _⟩
  · have part : ∀ k ∈ formatKinds, v.part? formatKinds k.1 = v'.part? formatKinds k.1 := by
      intro k known
      rw [Json.part?_eq has, Json.part?_eq has', same k.1 (List.mem_map_of_mem known)]
    exact ⟨Json.fits_congr has has' fun k known => by rw [part k known], part⟩
  · exact none.elim

/-- Two sources are alike for the checks. -/
structure SourceDocument.Alike (s s' : Option Json) : Prop where
  /-- Both are there, or neither is. -/
  given : s.isSome = s'.isSome
  /-- Both fit, or neither does. -/
  fit : s.all (Json.fits sourceKinds) = s'.all (Json.fits sourceKinds)
  /-- The file is the same. -/
  file : s.bind (Json.part? sourceKinds "file") = s'.bind (Json.part? sourceKinds "file")
  /-- The URL is the same. -/
  url : s.bind (Json.part? sourceKinds "url") = s'.bind (Json.part? sourceKinds "url")
  /-- What would be sent to a URL can be sent, or cannot, in both. -/
  headers : ((s.bind (Json.part? sourceKinds "url")).isNone ||
      areHeaders (s.bind (Json.part? sourceKinds "headers")))
    = ((s'.bind (Json.part? sourceKinds "url")).isNone ||
      areHeaders (s'.bind (Json.part? sourceKinds "headers")))
  /-- The formats are alike. -/
  format : FormatDocument.Alike (s.bind (Json.part? sourceKinds "format"))
    (s'.bind (Json.part? sourceKinds "format"))

theorem SourceDocument.Alike.refl (s : Option Json) : Alike s s :=
  ⟨rfl, rfl, rfl, rfl, rfl, .of_eq rfl⟩

/-- Two sources are alike if the same stands under their names, up to what the checks ask of headers
and formats. -/
theorem SourceDocument.alike_of_parts (has : v.fieldsAs? (sourceKinds.map (·.1)) = some fields)
    (has' : v'.fieldsAs? (sourceKinds.map (·.1)) = some fields')
    (file : v.part? sourceKinds "file" = v'.part? sourceKinds "file")
    (url : v.part? sourceKinds "url" = v'.part? sourceKinds "url")
    (kind : (v.part? sourceKinds "headers").all isTextMap
      = (v'.part? sourceKinds "headers").all isTextMap)
    (headers : ((v.part? sourceKinds "url").isNone || areHeaders (v.part? sourceKinds "headers"))
      = ((v'.part? sourceKinds "url").isNone || areHeaders (v'.part? sourceKinds "headers")))
    (format : FormatDocument.Alike (v.part? sourceKinds "format") (v'.part? sourceKinds "format")) :
    Alike (some v) (some v') := by
  refine ⟨rfl, Json.fits_congr has has' fun k known => ?_, file, url, headers, format⟩
  simp only [sourceKinds, List.mem_cons, List.not_mem_nil, or_false] at known
  rcases known with rfl | rfl | rfl | rfl
  · rw [file]
  · rw [url]
  · exact kind
  · exact format.fit

theorem SourceDocument.Retouch.alike (h : Retouch v v') (distinct : v.Distinct)
    (distinct' : v'.Distinct) : Alike (some v) (some v') := by
  obtain ⟨fields, fields', has, has', touched⟩ := h
  have own := Json.nodup_of_fieldsAs? (by decide) distinct has
  have own' := Json.nodup_of_fieldsAs? (by decide) distinct' has'
  rcases touched.left own.1 own'.1 with same | ⟨others, name, x, x', touch, here, here', rest⟩
  · have part : ∀ name ∈ sourceKinds.map (·.1),
        v.part? sourceKinds name = v'.part? sourceKinds name := by
      intro name known
      rw [Json.part?_eq has, Json.part?_eq has', same name known]
    have headers := part "headers" (by decide)
    have url := part "url" (by decide)
    refine alike_of_parts has has' (part "file" (by decide)) url ?_ ?_ ?_
    · rw [headers]
    · rw [headers, url]
    · exact .of_eq (part "format" (by decide))
  · have part : ∀ n, name ≠ n → v.part? sourceKinds n = v'.part? sourceKinds n := by
      intro n differ
      rw [Json.part?_eq has, Json.part?_eq has', (rest n differ).1, (rest n differ).2]
    have at_name := Json.part?_eq has name
    have at_name' := Json.part?_eq has' name
    rw [here] at at_name
    rw [here'] at at_name'
    cases touch with
    | format h =>
      have url := part "url" (by decide)
      have headers := part "headers" (by decide)
      refine alike_of_parts has has' (part "file" (by decide)) url ?_ ?_ ?_
      · rw [headers]
      · rw [headers, url]
      · rw [at_name, at_name', (Json.Retouch.shown h).1, (Json.Retouch.shown h).2]
        exact h.alike (own.2 _ ((Json.field?_eq_some_iff own.1).mp here))
          (own'.2 _ ((Json.field?_eq_some_iff own'.1).mp here'))
    | order same =>
      have url := part "url" (by decide)
      refine alike_of_parts has has' (part "file" (by decide)) url ?_ ?_ ?_
      · rw [at_name, at_name']
        exact same.all_eq
      · rw [at_name, at_name', url]
        exact congrArg _ same.all_eq
      · exact .of_eq (part "format" (by decide))
    | headers unasked kind =>
      have url := part "url" (by decide)
      -- the check of headers asks for a URL first, and there is none
      have none : v.part? sourceKinds "url" = none := by
        rw [Json.part?_eq has, (rest "url" (by decide)).1]
        exact unasked
      refine alike_of_parts has has' (part "file" (by decide)) url ?_ ?_ ?_
      · rw [at_name, at_name', Json.all_filter, Json.all_filter, kind]
      · rw [← url, none]
        rfl
      · exact .of_eq (part "format" (by decide))

/-- A document passes the same checks as one with the same type, the same under all other names,
and an alike source. -/
theorem Document.passes_of_parts {c : Check} (listed : c ∈ documentChecks)
    (type : field? "type" (.object fields) = field? "type" (.object fields'))
    (part : ∀ k ∈ documentKinds, k.1 ≠ "credential_source" →
      part? k.1 (.object fields) = part? k.1 (.object fields'))
    (source : SourceDocument.Alike (part? "credential_source" (.object fields))
      (part? "credential_source" (.object fields'))) :
    c.passes (.object fields) = c.passes (.object fields') := by
  have fit : Json.fits documentKinds (.object fields)
      = Json.fits documentKinds (.object fields') := by
    refine Json.fits_congr rfl rfl fun k known => ?_
    by_cases here : k.1 = "credential_source"
    · have same : k = ("credential_source", Json.fits sourceKinds) :=
        List.inj_on_of_nodup_map (by decide) known (by simp [documentKinds]) here
      rw [same]
      exact source.fit
    · exact congrArg (Option.all k.2) (part k known here)
  have text : ∀ name, (name, isText) ∈ documentKinds → name ≠ "credential_source" →
      part? name (.object fields) = part? name (.object fields') :=
    fun name => part (name, isText)
  have format : ∀ k ∈ formatKinds,
      formatPart? k.1 (.object fields) = formatPart? k.1 (.object fields') := source.format.part
  have format_type := format ("type", isText) (by simp [formatKinds])
  have format_name := format ("subject_token_field_name", isText) (by simp [formatKinds])
  have token := text "token_url" (by simp [documentKinds]) (by decide)
  have service := text "service_account_impersonation_url" (by simp [documentKinds]) (by decide)
  -- one case for each check, in the order of the list
  revert c
  simp only [documentChecks, typeChecks, requiredChecks, formatChecks, originChecks,
    endpointChecks, List.mem_append, List.mem_cons, List.not_mem_nil, List.map_cons, List.map_nil,
    or_false]
  rintro c ((rfl | rfl) | rfl | (rfl | rfl | rfl | rfl) | (rfl | rfl) | (rfl | rfl | rfl) |
    rfl | rfl)
  · exact congrArg Option.isSome type
  · exact congrArg isKnownType type
  · exact fit
  · exact congrArg Option.isSome (text "audience" (by simp [documentKinds]) (by decide))
  · exact congrArg Option.isSome (text "subject_token_type" (by simp [documentKinds]) (by decide))
  · exact congrArg Option.isSome token
  · exact source.given
  · exact congrArg isFormatType format_type
  · exact congrArg₂ namesField format_type format_name
  · exact congrArg₂ (fun file url : Option Json => file.isSome != url.isSome) source.file source.url
  · exact congrArg isAbsolute source.url
  · exact source.headers
  · exact congrArg isAbsolute token
  · exact congrArg isAbsolute service

/-- **A retouched document passes the same checks.** -/
theorem Document.Retouch.passes {c : Check} (h : Retouch v v') (distinct : v.Distinct)
    (distinct' : v'.Distinct) (listed : c ∈ documentChecks) : c.passes v = c.passes v' := by
  cases h with | @object fields fields' touched
  cases distinct with | object own each
  cases distinct' with | object own' each'
  rcases touched.left own own' with same | ⟨others, _, sv, sv', ⟨h⟩, here, here', rest⟩
  · have part : ∀ k ∈ documentKinds,
        part? k.1 (.object fields) = part? k.1 (.object fields') := fun k known =>
      congrArg (Option.filter _) (same k.1 (List.mem_cons_of_mem _ (List.mem_map_of_mem known)))
    refine passes_of_parts listed (same "type" List.mem_cons_self)
      (fun k known _ => part k known) ?_
    rw [part ("credential_source", Json.fits sourceKinds) (by simp [documentKinds])]
    exact .refl _
  · have left : ∀ n, n ≠ "credential_source" →
        field? n (.object fields) = field? n (.object fields') :=
      fun n other => (rest n other.symm).1.trans (rest n other.symm).2.symm
    have ⟨shown, shown'⟩ := Json.Retouch.shown h
    have source : part? "credential_source" (.object fields) = some sv :=
      (congrArg (Option.filter _) here).trans shown
    have source' : part? "credential_source" (.object fields') = some sv' :=
      (congrArg (Option.filter _) here').trans shown'
    refine passes_of_parts listed (left "type" (by decide))
      (fun k _ other => congrArg (Option.filter _) (left k.1 other)) ?_
    rw [source, source']
    exact h.alike (each _ ((Json.field?_eq_some_iff own).mp here))
      (each' _ ((Json.field?_eq_some_iff own').mp here'))

end Left

end WorkloadIdentity
