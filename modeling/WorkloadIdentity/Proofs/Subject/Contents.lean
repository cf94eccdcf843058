/-
  WorkloadIdentity.Proofs.Subject.Contents ──── **THE SAME BYTES IN A FILE AND BEHIND A URL.**

  Both sources look for the subject token in a text, and they look alike.  But the bytes of a file
  are decoded strictly, and those of an answer forgivingly: a fault in their UTF-8 makes the file
  unreadable, while behind the URL it becomes a character.

  Main results:
    * `SubjectSource.retrieve_held`, `SubjectSource.retrieve_served` — what each of them retrieves
    * `SourceFormat.extract_sameSubject` — where a text comes from does not matter
    * `SubjectSource.contents_agree_iff` — for which bytes the two agree
-/
import WorkloadIdentity.Proofs.Error.Agreement

namespace WorkloadIdentity

/-! ## §1. What is there, and what comes of it. -/

/-- A path leads to a regular file with these bytes. -/
def FileSystem.Holds (fs : FileSystem) (path : String) (bytes : List UInt8) : Prop :=
  ∃ place, fs.resolve path = .ok place ∧ fs.node? place = some (.file bytes)

/-- The next request to an address succeeds, and its answer has these bytes. -/
def Network.Serves (n : Network) (address : String) (bytes : List UInt8) : Prop :=
  ∃ u reply later response, Url.parse address = .ok u ∧ u.isHttp = true ∧ n.listening = true ∧
    n.script = reply :: later ∧ reply.outcome u = .ok response ∧ response.complete = true ∧
    response.raw.status.isSuccess = true ∧ response.raw.body = bytes

/-- **The same subject token, or the same kind of refusal** of a source. -/
inductive SameSubject : Except AuthError String → Except AuthError String → Prop where
  /-- Both have this token. -/
  | token (t : String) : SameSubject (.ok t) (.ok t)
  /-- To both the source is of no use. -/
  | unavailable {e e' : AuthError} (here : e.family = .source) (there : e'.family = .source) :
      SameSubject (.error e) (.error e')
  /-- Both miss the field. -/
  | missing {e e' : AuthError} (here : e.family = .field) (there : e'.family = .field) :
      SameSubject (.error e) (.error e')

theorem exists_of_not_isOk {ε α : Type} {x : Except ε α} (h : x.isOk = false) :
    ∃ e, x = .error e := by
  cases x with
  | error e => exact ⟨e, rfl⟩
  | ok a => cases h

/-! ## §2. A fault in the bytes shows in the text. -/

namespace Utf8

theorem map_getD_ne_nil {cs : List (Option Char)} (fault : whole? cs = none) :
    cs.map (·.getD '\uFFFD') ≠ [] := by
  cases cs with
  | nil => cases fault
  | cons c rest => exact List.cons_ne_nil _ _

/-- Bytes with a fault have a text that is not empty. -/
theorem decodeLossy_ne_empty {bytes : List UInt8} (fault : decode? bytes = none) :
    decodeLossy bytes ≠ "" := by
  intro empty
  refine map_getD_ne_nil (Option.map_eq_none_iff.mp fault) ?_
  have chars := congrArg String.toList empty
  unfold decodeLossy at chars
  rw [String.toList_ofList] at chars
  exact chars

end Utf8

/-! ## §3. Where a text comes from does not matter. -/

namespace SourceFormat

/-- The text is no JSON, as the format asks for. -/
def Rejects : SourceFormat → String → Prop
  | .text, _ => False
  | .json _, content => ∃ e, Json.parse (Utf8.encode content) = .error e

/-- **A text gives the same token, or is refused in the same way, wherever it comes from.** -/
theorem extract_sameSubject (f : SourceFormat) (content origin origin' : String) :
    SameSubject (f.extract content origin) (f.extract content origin') := by
  cases f with
  | text =>
    unfold extract
    dsimp only
    split
    · exact .unavailable rfl rfl
    · exact .token content
  | json name =>
    unfold extract
    dsimp only
    cases Json.parse (Utf8.encode content) with
    | error e => exact .unavailable rfl rfl
    | ok v =>
      dsimp only
      split
      · split
        · exact .missing rfl rfl
        · exact .token _
      · exact .missing rfl rfl

/-- **A text that is not empty is of no use exactly if the format rejects it.** -/
theorem extract_unavailable_iff {f : SourceFormat} {content : String} (origin : String)
    (full : content ≠ "") :
    (∃ e, f.extract content origin = .error e ∧ e.family = .source) ↔ f.Rejects content := by
  cases f with
  | text =>
    unfold extract
    dsimp only
    rw [if_neg full]
    constructor
    · rintro ⟨e, refused, -⟩
      cases refused
    · exact False.elim
  | json name =>
    unfold extract Rejects
    dsimp only
    cases Json.parse (Utf8.encode content) with
    | error e => exact ⟨fun _ => ⟨e, rfl⟩, fun _ => ⟨_, rfl, rfl⟩⟩
    | ok v =>
      refine ⟨?_, nofun⟩
      rintro ⟨e, refused, kind⟩
      -- a document is refused for its field only
      dsimp only at refused
      split at refused
      · split at refused
        · cases refused
          cases kind
        · cases refused
      · cases refused
        cases kind

end SourceFormat

/-! ## §4. What each source retrieves. -/

namespace SubjectSource

section Retrieval

variable {path address : String} {bytes : List UInt8} {w : World}

/-- What is read of a file: its text, if it is one. -/
theorem content_held (held : w.files.Holds path bytes) :
    (∃ s, Utf8.decode? bytes = some s ∧ content w.files path = .ok s) ∨
    (Utf8.decode? bytes = none ∧ ∃ e, content w.files path = .error e ∧ e.family = .source) := by
  obtain ⟨place, resolved, node⟩ := held
  have regular : w.files.isFile place = true := by
    unfold FileSystem.isFile
    rw [node]
  unfold content
  rw [resolved]
  dsimp only
  rw [regular]
  unfold FileSystem.textAt
  rw [node]
  dsimp only
  cases decoded : Utf8.decode? bytes with
  | none => exact .inr ⟨rfl, _, rfl, rfl⟩
  | some s => exact .inl ⟨s, rfl, rfl⟩

/-- **From a file comes what is in its text**, and nothing if it has none. -/
theorem retrieve_held (format : SourceFormat) (held : w.files.Holds path bytes) :
    (∃ s, Utf8.decode? bytes = some s ∧
      ((file path format).retrieve.run w).1 = format.extract s path) ∨
    (Utf8.decode? bytes = none ∧
      ∃ e, ((file path format).retrieve.run w).1 = .error e ∧ e.family = .source) := by
  have judged : ((file path format).retrieve.run w).1
      = (content w.files path).bind (format.extract · path) := by
    show ((readFile path >>= fun s => Act.lift (format.extract s path)).run w).1 = _
    rw [Act.run_bind_still (fun s w => Act.run_lift _ w), run_readFile]
  rw [judged]
  rcases content_held held with ⟨s, decoded, read⟩ | ⟨fault, e, refused, kind⟩
  · exact .inl ⟨s, decoded, by rw [read]; rfl⟩
  · exact .inr ⟨fault, e, by rw [refused]; rfl, kind⟩

/-- **From a URL comes what is in the text of the answer**, faults replaced. -/
theorem retrieve_served (headers : Headers) (format : SourceFormat)
    (served : w.network.Serves address bytes) :
    ((url address headers format).retrieve.run w).1
      = format.extract (Utf8.decodeLossy bytes) address := by
  obtain ⟨u, reply, later, response, parsed, http, listening, script, outcome, whole, success,
    rfl⟩ := served
  have answered : (w.network.send .subjectToken ⟨"GET", u, headers, .none⟩).1 = .ok response := by
    unfold Network.send
    simp only [http, listening, script]
    exact outcome
  have exchanged : ((Act.exchange .subjectToken "GET" address headers .none).run w).1
      = .ok response.raw := by
    rw [Act.run_exchange _ _ _ _ parsed, Act.run_send, answered]
    show response.answer .subjectToken = _
    unfold Response.answer Response.read
    rw [if_pos whole]
  show ((readUrl address headers >>= fun s => Act.lift (format.extract s address)).run w).1 = _
  rw [Act.run_bind_still (fun s w => Act.run_lift _ w)]
  rcases ran : (Act.exchange .subjectToken "GET" address headers .none).run w with ⟨result, next⟩
  rw [ran] at exchanged
  cases exchanged
  unfold readUrl
  rw [run_bind_ok ran, success]
  rfl

end Retrieval

/-! ## §5. When the two agree. -/

/-- **A file and a URL agree on some bytes exactly if these are UTF-8, or the format rejects their
text with the faults replaced.**  Otherwise the file is of no use, and the URL gives a token made
of the text with replacements, or misses the field in it. -/
theorem contents_agree_iff {path address : String} {bytes : List UInt8} {w w' : World}
    (headers : Headers) (format : SourceFormat) (held : w.files.Holds path bytes)
    (served : w'.network.Serves address bytes) :
    (SameSubject ((file path format).retrieve.run w).1
        ((url address headers format).retrieve.run w').1 ↔
      (Utf8.decode? bytes).isSome ∨ format.Rejects (Utf8.decodeLossy bytes)) ∧
    ((url address headers format).retrieve.run w').1
      = format.extract (Utf8.decodeLossy bytes) address ∧
    (Utf8.decode? bytes = none →
      (∃ e, ((file path format).retrieve.run w).1 = .error e ∧ e.family = .source) ∧
      (format = .text →
        ((url address headers format).retrieve.run w').1 = .ok (Utf8.decodeLossy bytes))) := by
  have there := retrieve_served headers format served
  rw [there]
  rcases retrieve_held format held with ⟨s, decoded, here⟩ | ⟨fault, e, here, kind⟩
  · refine ⟨?_, rfl, fun fault => by rw [decoded] at fault; cases fault⟩
    rw [here, decoded, Utf8.decodeLossy_of_decode? decoded]
    exact ⟨fun _ => .inl rfl, fun _ => format.extract_sameSubject s path address⟩
  · have full := Utf8.decodeLossy_ne_empty fault
    refine ⟨?_, rfl, fun _ => ⟨⟨e, here, kind⟩, ?_⟩⟩
    · rw [here, fault, ← SourceFormat.extract_unavailable_iff address full]
      constructor
      · intro same
        generalize format.extract (Utf8.decodeLossy bytes) address = result at same
        cases same with
        | unavailable _ kind' => exact .inr ⟨_, rfl, kind'⟩
        | missing kind' _ => rw [kind] at kind'; cases kind'
      · rintro (impossible | ⟨e', refused, kind'⟩)
        · cases impossible
        · rw [refused]
          exact .unavailable kind kind'
    · rintro rfl
      unfold SourceFormat.extract
      dsimp only
      rw [if_neg full]

end SubjectSource

/-! ## §6. One byte that is no UTF-8. -/

namespace Faulty

/-- A file and a server with the same bytes. -/
def world (bytes : List UInt8) : World where
  network := ⟨true, [.respond 200 .empty bytes true], []⟩
  files := ⟨[], [(["token"], .file bytes)]⟩
  clock := .start
  subjects := []
  log := []

/-- The byte that no character has. -/
def fault : List UInt8 := [0xFF]

theorem holds (bytes : List UInt8) : (world bytes).files.Holds "/token" bytes :=
  ⟨["token"], rfl, rfl⟩

theorem serves (bytes : List UInt8) : (world bytes).network.Serves "http://sts/" bytes :=
  ⟨_, _, _, _, rfl, rfl, rfl, rfl, rfl, rfl, rfl, rfl⟩

/-- Its replacement is no JSON. -/
theorem rejects_fault : (SourceFormat.json "id").Rejects (Utf8.decodeLossy fault) :=
  exists_of_not_isOk (by decide +kernel)

end Faulty

open Faulty in
/-- Where a document is due, the byte is of no use in a file and behind a URL. -/
theorem SubjectSource.contents_agree_on_rejected_fault :
    (world fault).files.Holds "/token" fault ∧ (world fault).network.Serves "http://sts/" fault ∧
    Utf8.decode? fault = none ∧
    SameSubject ((file "/token" (.json "id")).retrieve.run (world fault)).1
      ((url "http://sts/" .empty (.json "id")).retrieve.run (world fault)).1 := by
  refine ⟨holds fault, serves fault, rfl, ?_⟩
  have agrees := (contents_agree_iff .empty (.json "id") (holds fault) (serves fault)).1
  exact agrees.mpr (.inr rejects_fault)

open Faulty in
/-- As a text, the same byte makes the file unreadable, and is a token of one character behind the
URL. -/
theorem SubjectSource.contents_disagree_on_fault :
    (∃ e, ((file "/token" .text).retrieve.run (world fault)).1 = .error e ∧
      e.family = .source) ∧
    ((url "http://sts/" .empty .text).retrieve.run (world fault)).1 = .ok "\uFFFD" ∧
    ¬ SameSubject ((file "/token" .text).retrieve.run (world fault)).1
      ((url "http://sts/" .empty .text).retrieve.run (world fault)).1 := by
  refine ⟨⟨_, rfl, rfl⟩, rfl, ?_⟩
  intro same
  cases same

end WorkloadIdentity
