/-
  WorkloadIdentity.Proofs.Project.Answer ──── **WHAT TELLS THE ID OF A PROJECT.**

  One kind of answer tells the id: a 2xx response that arrives whole and has a body that names it.
  A body names an id if it is an object with exactly one field `projectId`, and that is a text, or
  if it is a sequence of one text.  The fields of an object are written down here as they stand in
  the body, each with the text that begins with its value, and all but the one are passed over.

  Main results:
    * `Project.parse_iff`  — which bodies are taken for an answer, and for which
    * `Project.lookup_iff` — when a lookup finds an id, and which
-/
import WorkloadIdentity.Proofs.Error.Listings

namespace WorkloadIdentity

/-! ## §1. The fields of an object. -/

namespace Json

/-- **The fields of an object**, as they stand in its text: each with its name and the text that
begins with its value.  What is left begins with the brace that closes the object. -/
inductive Members : Bool → List UInt8 → List (String × List UInt8) → List UInt8 → Prop where
  /-- There are no more. -/
  | nil {first : Bool} {input left : List UInt8} (ends : nextKey first input = .ok (false, left)) :
      Members first input [] left
  /-- There is one, and others behind its value. -/
  | cons {first : Bool} {input value behind left : List UInt8} {name : String}
      {fields : List (String × List UInt8)} (named : Named first input name value)
      (passed : skip value = .ok behind) (more : Members false behind fields left) :
      Members first input ((name, value) :: fields) left

/-- An object ends with its brace. -/
theorem brace_of_nextKey {first : Bool} {input left : List UInt8}
    (ends : nextKey first input = .ok (false, left)) : ∃ after, left = byte '\x7d' :: after := by
  unfold nextKey at ends
  grind

theorem Members.brace {first : Bool} {input left : List UInt8}
    {fields : List (String × List UInt8)} (members : Members first input fields left) :
    ∃ after, left = byte '\x7d' :: after := by
  induction members with
  | nil ends => exact brace_of_nextKey ends
  | cons _ _ _ ih => exact ih

/-- A field takes more than nothing. -/
theorem Named.length_lt {first : Bool} {input value behind : List UInt8} {name : String}
    (named : Named first input name value) (passed : skip value = .ok behind) :
    behind.length < input.length := by
  obtain ⟨start, after, next, token, mark⟩ := named
  have opened := nextKey_takes next
  have called := stringToken_takes _ _ _ token
  have parted := colon_passes _ _ mark
  have valued := skip_passes _ _ passed
  omega

section Rounds

variable {σ α : Type} {r : TextRecord σ α} {depth fuel : Nat} {first : Bool} {s s' : σ}
  {name : String} {input value behind : List UInt8}

theorem TextRecord.readFields_end {left : List UInt8}
    (ends : nextKey first input = .ok (false, left)) :
    r.readFields depth (fuel + 1) first s input = .ok (s, left) := by
  rw [readFields]
  simp only [ends, bind, Except.bind]

theorem TextRecord.readFields_unknown (named : Named first input name value)
    (unknown : r.fields.find? (·.name == name) = none) (passed : skip value = .ok behind) :
    r.readFields depth (fuel + 1) first s input = r.readFields depth fuel false s behind := by
  obtain ⟨start, after, next, token, mark⟩ := named
  rw [readFields]
  simp only [next, token, mark, unknown, passed, bind, Except.bind]

theorem TextRecord.readFields_known {f : TextField σ} (named : Named first input name value)
    (known : r.fields.find? (·.name == name) = some f) (fresh : f.held s = false)
    (read : f.read depth s value = .ok (s', behind)) :
    r.readFields depth (fuel + 1) first s input = r.readFields depth fuel false s' behind := by
  obtain ⟨start, after, next, token, mark⟩ := named
  rw [readFields]
  simp only [next, token, mark, known, fresh, read, bind, Except.bind, Bool.false_eq_true, if_false]

/-- A record that is read from an object, step by step. -/
theorem TextRecord.read_brace_iff {x : α} {start after : List UInt8}
    (found : skipBlanks input = byte '\x7b' :: start) :
    r.read (depth + 1) input = .ok (x, after) ↔
      ∃ s left, r.readFields depth (start.length + 1) true r.blank start = .ok (s, left) ∧
        r.finish s = .ok x ∧ after = afterObject left := by
  have brace : Opening.of (byte '\x7b') = .brace := by decide
  unfold read
  simp only [found, brace]
  constructor
  · intro h
    obtain ⟨⟨s, left⟩, fields, h⟩ := exists_of_bind_ok h
    dsimp only at h
    split at h
    · cases h
    · next y done =>
      cases h
      exact ⟨s, left, fields, done, rfl⟩
  · rintro ⟨s, left, fields, done, rfl⟩
    simp only [fields, bind, Except.bind, done]

end Rounds

end Json

/-! ## §2. Bodies that name an id. -/

namespace Project

open Json (Members Named)

/-- A text stands here. -/
def Stands (value : List UInt8) (id : String) : Prop :=
  ∃ behind, Json.readString 0 value = .ok (id, behind)

/-- The fields by which an object names an id. -/
def naming (fields : List (String × List UInt8)) : List (String × List UInt8) :=
  fields.filter fun f => f.1 = "projectId"

/-- **A body names an id.** -/
inductive Names (body : List UInt8) (id : String) : Prop where
  /-- It is an object with one field of the name, which is a text. -/
  | object {start value after : List UInt8} {fields : List (String × List UInt8)}
      (opens : Json.skipBlanks body = Json.byte '\x7b' :: start)
      (members : Members true start fields (Json.byte '\x7d' :: after))
      (once : naming fields = [("projectId", value)]) (text : Stands value id)
      (ends : Json.skipBlanks after = []) : Names body id
  /-- It is a sequence of one text. -/
  | listing (parsed : Json.parse body = .ok (.array [.string id])) : Names body id

/-- From one draft to another by some fields: the id is not among them, or it is, once. -/
def Drafts (s : Option String) (fields : List (String × List UInt8)) (d : Option String) : Prop :=
  (naming fields = [] ∧ d = s) ∨
    ∃ value id, naming fields = [("projectId", value)] ∧ Stands value id ∧ s = none ∧ d = some id

theorem Drafts.other {s d : Option String} {name : String} {value : List UInt8}
    {fields : List (String × List UInt8)} (other : name ≠ "projectId") :
    Drafts s ((name, value) :: fields) d ↔ Drafts s fields d := by
  have same : naming ((name, value) :: fields) = naming fields :=
    List.filter_cons_of_neg (by simpa using other)
  unfold Drafts
  rw [same]

theorem naming_id (value : List UInt8) (fields : List (String × List UInt8)) :
    naming (("projectId", value) :: fields) = ("projectId", value) :: naming fields :=
  List.filter_cons_of_pos (by simp)

/-- The only field that is known. -/
def idField : Json.TextField (Option String) :=
  .of "projectId" Json.readString id fun _ s => some s

theorem find?_fields (name : String) :
    record.fields.find? (·.name == name) = if name = "projectId" then some idField else none := by
  have known : record.fields = [idField] := rfl
  rw [known, List.find?_singleton]
  by_cases same : name = "projectId"
  · rw [if_pos same, same]
    rfl
  · rw [if_neg same, if_neg]
    intro found
    exact same (beq_iff_eq.mp found).symm

/-- A text is read into the draft that holds nothing, and passed over. -/
theorem Stands.read {value : List UInt8} {id : String} (text : Stands value id) (depth : Nat) :
    ∃ behind, Json.skip value = .ok behind ∧
      idField.read depth none value = .ok (some id, behind) := by
  obtain ⟨behind, read⟩ := text
  obtain ⟨b, start, found, quote, token⟩ := Json.readString_cases read
  refine ⟨behind, Json.skip_of_quote found quote token, ?_⟩
  show (Json.readString 0 value).map _ = _
  rw [read]
  rfl

/-- What is read into a draft is a text, and is passed over. -/
theorem stands_of_read {depth : Nat} {value behind : List UInt8} {s d : Option String}
    (read : idField.read depth s value = .ok (d, behind)) :
    ∃ id, Stands value id ∧ d = some id ∧ Json.skip value = .ok behind := by
  obtain ⟨id, text, rfl⟩ := Json.TextField.of_cases read
  obtain ⟨b, start, found, quote, token⟩ := Json.readString_cases text
  exact ⟨id, ⟨behind, text⟩, rfl, Json.skip_of_quote found quote token⟩

/-- **The fields of an object are read as they are written down.** -/
theorem readFields_iff {depth fuel : Nat} {first : Bool} {s d : Option String}
    {input left : List UInt8} (enough : input.length < fuel) :
    record.readFields depth fuel first s input = .ok (d, left) ↔
      ∃ fields, Members first input fields left ∧ Drafts s fields d := by
  constructor
  · intro read
    induction fuel generalizing first s input with
    | zero => cases read
    | succ fuel ih =>
      rcases Json.TextRecord.readFields_cases read with ⟨ends, rfl⟩ | ⟨name, value, named, round⟩
      · exact ⟨[], .nil ends, .inl ⟨rfl, rfl⟩⟩
      rw [find?_fields] at round
      rcases round with ⟨unknown, behind, passed, more⟩ | ⟨f, s', behind, known, fresh, text, more⟩
      · have other : name ≠ "projectId" := by
          intro same
          rw [if_pos same] at unknown
          cases unknown
        have shorter := named.length_lt passed
        obtain ⟨fields, members, drafts⟩ := ih (by omega) more
        exact ⟨_, .cons named passed members, (Drafts.other other).mpr drafts⟩
      · obtain ⟨same, rfl⟩ : name = "projectId" ∧ idField = f := by
          split_ifs at known with same
          exact ⟨same, Option.some.inj known⟩
        subst same
        obtain ⟨id, stands, rfl, passed⟩ := stands_of_read text
        have shorter := named.length_lt passed
        obtain ⟨fields, members, drafts⟩ := ih (by omega) more
        have empty : s = none := Option.isSome_eq_false_iff.mp fresh |> Option.isNone_iff_eq_none.mp
        -- the draft holds the id now, so it is not named again
        rcases drafts with ⟨none, rfl⟩ | ⟨_, _, _, _, held, _⟩
        · refine ⟨_, .cons named passed members, .inr ⟨value, id, ?_, stands, empty, rfl⟩⟩
          rw [naming_id, none]
        · cases held
  · rintro ⟨fields, members, drafts⟩
    induction members generalizing s fuel with
    | nil ends =>
      obtain ⟨fuel, rfl⟩ := Nat.exists_eq_succ_of_ne_zero (Nat.ne_of_gt (Nat.zero_lt_of_lt enough))
      rcases drafts with ⟨-, rfl⟩ | ⟨_, _, none, -⟩
      · exact Json.TextRecord.readFields_end ends
      · cases none
    | @cons first input value behind left name fields named passed _ ih =>
      obtain ⟨fuel, rfl⟩ := Nat.exists_eq_succ_of_ne_zero (Nat.ne_of_gt (Nat.zero_lt_of_lt enough))
      have shorter := named.length_lt passed
      have found := find?_fields name
      by_cases same : name = "projectId"
      · rw [if_pos same] at found
        subst same
        rcases drafts with ⟨none, -⟩ | ⟨value', id, once, stands, rfl, rfl⟩
        · rw [naming_id] at none
          cases none
        · rw [naming_id] at once
          obtain ⟨here, none⟩ := List.cons.inj once
          cases here
          obtain ⟨after, passed', read⟩ := stands.read depth
          cases passed.symm.trans passed'
          rw [Json.TextRecord.readFields_known named found rfl read]
          exact ih (by omega) (.inl ⟨none, rfl⟩)
      · rw [if_neg same] at found
        rw [Json.TextRecord.readFields_unknown named found passed]
        exact ih (by omega) ((Drafts.other same).mp drafts)

/-- An object names an id exactly if it is read as the answer. -/
theorem parse_object_iff {body start : List UInt8} {id : String}
    (opens : Json.skipBlanks body = Json.byte '\x7b' :: start) :
    record.parse body = .ok id ↔ ∃ value after fields,
      Members true start fields (Json.byte '\x7d' :: after) ∧
        naming fields = [("projectId", value)] ∧ Stands value id ∧ Json.skipBlanks after = [] := by
  have deep : Json.depthBound = 126 + 1 := rfl
  unfold Json.TextRecord.parse
  simp only [Json.whole_ok_iff, deep, Json.TextRecord.read_brace_iff opens,
    readFields_iff (Nat.lt_succ_self _)]
  constructor
  · rintro ⟨_, ⟨d, left, ⟨fields, members, drafts⟩, done, rfl⟩, ends⟩
    obtain ⟨after, rfl⟩ := members.brace
    rcases drafts with ⟨-, rfl⟩ | ⟨value, id', once, text, -, rfl⟩
    · cases done
    · cases done
      exact ⟨value, after, fields, members, once, text, ends⟩
  · rintro ⟨value, after, fields, members, once, text, ends⟩
    exact ⟨after, ⟨some id, _, ⟨fields, members, .inr ⟨value, id, once, text, rfl, rfl⟩⟩, rfl, rfl⟩,
      ends⟩

/-- **A body is taken for an answer exactly if it names an id**, and then for that id. -/
theorem parse_iff {body : List UInt8} {id : String} :
    record.parse body = .ok id ↔ Names body id := by
  constructor
  · intro read
    by_cases other : Json.NoObject body
    · obtain ⟨items, parsed, told⟩ := (lists.parse_iff other).mp read
      rcases items with _ | ⟨v, _ | ⟨w, more⟩⟩
      · cases told
      · cases v with
        | string s =>
          cases told
          exact .listing parsed
        | null | bool | number | array | object => cases told
      · cases told
    · obtain ⟨start, opens⟩ : ∃ start, Json.skipBlanks body = Json.byte '\x7b' :: start := by
        unfold Json.NoObject at other
        rw [not_not, List.head?_eq_some_iff] at other
        exact other
      obtain ⟨value, after, fields, members, once, text, ends⟩ := (parse_object_iff opens).mp read
      exact .object opens members once text ends
  · intro names
    cases names with
    | object opens members once text ends =>
      exact (parse_object_iff opens).mpr ⟨_, _, _, members, once, text, ends⟩
    | listing parsed =>
      have other := Json.noObject_of_parse parsed fun _ => nofun
      exact (lists.parse_iff other).mpr ⟨_, parsed, rfl⟩

end Project

/-! ## §3. Worlds that tell an id. -/

/-- **A world tells an id** to whoever asks at an address. -/
structure World.TellsId (w : World) (address id : String) : Prop where
  /-- The address is a URL that HTTP can use. -/
  addressed : ∃ u, Url.parse address = .ok u ∧ u.isHttp = true
  /-- Somebody listens. -/
  listening : w.network.listening = true
  /-- The next reply has a 2xx status, and a body that arrives whole and names the id. -/
  reply : ∃ status headers body, w.network.script.head? = some (.respond status headers body true) ∧
    (200 ≤ status ∧ status ≤ 299) ∧ status ≠ 204 ∧ Project.Names body id

namespace Project

variable {baseUrl number id : String} {h : Headers} {w : World}

/-- A response tells an id if it is whole, of a 2xx status, and has a body that is taken for it. -/
theorem accepted_ok_iff {response : Response} :
    (response.accepted .projectId).bind (Act.decode record Errand.projectId.doing) = .ok id ↔
      response.complete = true ∧ response.raw.status.isSuccess = true ∧
        record.parse response.raw.body = .ok id := by
  rw [Response.accepted_eq_judge]
  unfold Response.judge Response.read Act.decode
  cases response.complete with
  | false => simp [Except.bind]
  | true =>
    cases success : response.raw.status.isSuccess with
    | false => simp [Except.bind, success]
    | true => cases parsed : record.parse response.raw.body <;> simp [Except.bind, success, parsed]

/-- Nothing is not taken for an answer. -/
theorem not_names_nil : ¬ Names [] id := by
  intro names
  have taken := parse_iff.mpr names
  cases taken

/-- Two statuses have no body, and only one of them is 2xx. -/
theorem not_isBodiless {status : Status} (success : 200 ≤ status ∧ status ≤ 299)
    (other : status ≠ 204) : ¬ status.isBodiless = true := by
  unfold Status.isBodiless
  rw [Bool.or_eq_true, beq_iff_eq, beq_iff_eq]
  rintro (rfl | rfl)
  · exact other rfl
  · exact absurd success.2 (by decide)

/-- A body that is taken for an answer is there, and names the id. -/
theorem names_of_taken {status : Status} {body : List UInt8}
    (success : 200 ≤ status ∧ status ≤ 299)
    (taken : record.parse (if status.isBodiless then [] else body) = .ok id) :
    status ≠ 204 ∧ Names body id := by
  have other : status ≠ 204 := by
    rintro rfl
    exact not_names_nil (parse_iff.mp taken)
  rw [if_neg (not_isBodiless success other)] at taken
  exact ⟨other, parse_iff.mp taken⟩

/-- Without a URL nothing is found. -/
theorem lookup_unaddressed {fault : UrlError}
    (unparsed : Url.parse (baseUrl ++ number) = .error fault) :
    ∃ e, ((lookup baseUrl number h).run w).1 = .error e := by
  unfold lookup Act.call Act.exchange Act.prepare
  rw [unparsed]
  exact ⟨_, rfl⟩

/-- **A lookup finds an id exactly if the world tells it.** -/
theorem lookup_iff :
    ((lookup baseUrl number h).run w).1 = .ok id ↔ w.TellsId (baseUrl ++ number) id := by
  constructor
  · intro found
    cases parsed : Url.parse (baseUrl ++ number) with
    | error fault =>
      obtain ⟨e, failed⟩ := lookup_unaddressed (h := h) (w := w) parsed
      cases found.symm.trans failed
    | ok u =>
      rw [fst_run_lookup parsed, Act.run_send_told] at found
      cases http : u.isHttp with
      | false =>
        rw [Network.send_unusable http] at found
        cases found
      | true =>
        cases listening : w.network.listening with
        | false =>
          rw [Network.send_unheard http listening] at found
          cases found
        | true =>
          rw [Network.send_heard http listening] at found
          cases script : w.network.script.head? with
          | none =>
            rw [script] at found
            cases found
          | some reply =>
            rw [script] at found
            cases reply with
            | drop => cases found
            | respond status headers body complete =>
              obtain ⟨rfl, success, taken⟩ := accepted_ok_iff.mp found
              have granted := (isSuccess_iff _).mp success
              obtain ⟨filled, names⟩ := names_of_taken granted taken
              exact ⟨⟨u, parsed, http⟩, listening, status, headers, body, script, granted, filled,
                names⟩
  · rintro ⟨⟨u, parsed, http⟩, listening, status, headers, body, script, success, filled, names⟩
    rw [fst_run_lookup parsed, Act.run_send_told, Network.send_heard http listening, script]
    refine accepted_ok_iff.mpr ⟨rfl, (isSuccess_iff _).mpr success, ?_⟩
    show record.parse (if status.isBodiless then [] else body) = _
    rw [if_neg (not_isBodiless success filled)]
    exact parse_iff.mpr names

end Project

end WorkloadIdentity
