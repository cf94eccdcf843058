/-
  WorkloadIdentity.Proofs.Log.Inputs ──── **WORLDS THAT DIFFER IN SECRETS.**

  Everything outside is one value, and two such values are compared: the files may differ in
  contents, the replies in bodies, the application's own source in its tokens.  What a reply may
  differ in depends on what is asked, and so replies are compared along the errands of the requests
  that take them.

  Main results:
    * `FileSystem.Alike`, `ScriptsAlike`, `LogRecord.Alike`, `World.Alike` — the comparison
    * `FileSystem.resolve_alike` — a path leads to the same place
    * `Reply.outcome_alike` — a reply makes the same of a request
-/
import Mathlib.Data.List.Forall2
import WorkloadIdentity.Proofs.Log.Secrets

namespace WorkloadIdentity

/-! ## §1. Files. -/

/-- Two nodes: the same, or two files. -/
inductive FileNode.Alike : FileNode → FileNode → Prop where
  /-- They do not differ. -/
  | same (n : FileNode) : Alike n n
  /-- Two files, whatever they contain. -/
  | file (content content' : List UInt8) : Alike (.file content) (.file content')

/-- How contents of a source are read. -/
def SubjectSource.format : SubjectSource → SourceFormat
  | .file _ format | .url _ _ format => format
  | .application => .text

/-- **Two trees differ in contents of files only**, and in the file of a source in secrets only. -/
structure FileSystem.Alike (source : SubjectSource) (fs fs' : FileSystem) : Prop where
  /-- Relative paths start at the same place. -/
  working : fs.working = fs'.working
  /-- There are nodes at the same paths, and they are of the same kind. -/
  nodes : List.Forall₂ (fun p p' => p.1 = p'.1 ∧ FileNode.Alike p.2 p'.2) fs.nodes fs'.nodes
  /-- In the file of the source there is the same, or two texts that differ in secrets. -/
  content : ∀ path format, source = .file path format → ∀ place, fs.resolve path = .ok place →
    fs.textAt place = fs'.textAt place ∨
      ∃ s s', format.Alike s s' ∧ fs.textAt place = .ok s ∧ fs'.textAt place = .ok s'

namespace FileSystem

variable {source : SubjectSource} {fs fs' : FileSystem}

theorem Alike.refl (source : SubjectSource) (fs : FileSystem) : fs.Alike source fs :=
  ⟨rfl, List.forall₂_same.mpr fun _ _ => ⟨rfl, .same _⟩, fun _ _ _ _ _ => .inl rfl⟩

theorem node?_alike (h : fs.Alike source fs') (p : AbsolutePath) :
    Option.Rel FileNode.Alike (fs.node? p) (fs'.node? p) := by
  unfold node?
  split
  · exact .some (.same _)
  · have nodes := h.nodes
    generalize fs.nodes = l at nodes
    generalize fs'.nodes = l' at nodes
    induction nodes with
    | nil => exact .none
    | @cons q q' l l' first _ ih =>
      rw [List.find?_cons, List.find?_cons, ← first.1]
      cases q.1 == p with
      | true => exact .some first.2
      | false => exact ih

theorem isDirectory_alike (h : fs.Alike source fs') (p : AbsolutePath) :
    fs.isDirectory p = fs'.isDirectory p := by
  have node := node?_alike h p
  unfold isDirectory
  generalize fs.node? p = n at node
  generalize fs'.node? p = n' at node
  cases node with
  | none => rfl
  | some h => cases h <;> rfl

theorem isFile_alike (h : fs.Alike source fs') (p : AbsolutePath) : fs.isFile p = fs'.isFile p := by
  have node := node?_alike h p
  unfold isFile
  generalize fs.node? p = n at node
  generalize fs'.node? p = n' at node
  cases node with
  | none => rfl
  | some h => cases h <;> rfl

theorem walk_alike (h : fs.Alike source fs') (fuel links : Nat) (here : AbsolutePath)
    (names : List String) : fs.walk fuel links here names = fs'.walk fuel links here names := by
  induction fuel generalizing links here names with
  | zero => cases names <;> rfl
  | succ fuel ih =>
    cases names with
    | nil => rfl
    | cons name rest =>
      have node := node?_alike h (here ++ [name])
      unfold walk
      rw [isDirectory_alike h here]
      simp only [ih]
      generalize fs.node? (here ++ [name]) = n at node
      generalize fs'.node? (here ++ [name]) = n' at node
      cases node with
      | none => rfl
      | some h =>
        cases h with
        | same => rfl
        | file => rfl

/-- What is computed from the nodes, but not from contents of files, is the same. -/
theorem foldl_nodes_alike {β : Type} (h : fs.Alike source fs')
    {f : β → AbsolutePath × FileNode → β}
    (same : ∀ b p n n', FileNode.Alike n n' → f b (p, n) = f b (p, n')) (start : β) :
    fs.nodes.foldl f start = fs'.nodes.foldl f start := by
  have nodes := h.nodes
  generalize fs.nodes = l at nodes
  generalize fs'.nodes = l' at nodes
  induction nodes generalizing start with
  | nil => rfl
  | @cons q q' l l' first _ ih =>
    obtain ⟨p, n⟩ := q
    obtain ⟨p', n'⟩ := q'
    obtain ⟨rfl, kinds⟩ : p = p' ∧ FileNode.Alike n n' := first
    rw [List.foldl_cons, List.foldl_cons, same start p n n' kinds]
    exact ih _

/-- The longest link is the same. -/
theorem walkBound_alike (h : fs.Alike source fs') (path : String) :
    fs.walkBound path = fs'.walkBound path := by
  unfold walkBound
  rw [foldl_nodes_alike h]
  intro b p n n' kinds
  cases kinds <;> rfl

/-- **A path leads to the same place.** -/
theorem resolve_alike (h : fs.Alike source fs') (path : String) :
    fs.resolve path = fs'.resolve path := by
  unfold resolve
  rw [walkBound_alike h, h.working]
  simp only [walk_alike h]

end FileSystem

/-! ## §2. Replies. -/

/-- **Two replies to a request for an errand**: the same, or two successes whose bodies differ in
secrets. -/
inductive Reply.Alike (format : SourceFormat) (errand : Errand) : Reply → Reply → Prop where
  /-- They do not differ. -/
  | same (reply : Reply) : Alike format errand reply reply
  /-- They differ in their bodies. -/
  | body {status : Status} (headers : Headers) {body body' : List UInt8} (complete : Bool)
      (success : status.isSuccess = true) (h : BodyAlike format errand body body') :
      Alike format errand (.respond status headers body complete)
        (.respond status headers body' complete)

/-- **Two scripts**, compared along the errands of the requests that take the replies. -/
inductive ScriptsAlike (format : SourceFormat) : List Errand → List Reply → List Reply → Prop where
  /-- Replies that nobody takes are not compared. -/
  | untaken (script script' : List Reply) : ScriptsAlike format [] script script'
  /-- Both scripts are at their end. -/
  | ended (errands : List Errand) : ScriptsAlike format errands [] []
  /-- The next request takes one reply or the other. -/
  | reply {errand : Errand} {errands : List Errand} {r r' : Reply} {script script' : List Reply}
      (h : r.Alike format errand r') (later : ScriptsAlike format errands script script') :
      ScriptsAlike format (errand :: errands) (r :: script) (r' :: script')

/-- Two responses to the same address. -/
structure Response.Alike (format : SourceFormat) (errand : Errand) (a a' : Response) : Prop where
  /-- What was received. -/
  raw : a.raw.Alike format errand a'.raw
  /-- Where the request went. -/
  url : a.url = a'.url
  /-- Whether the body arrives whole. -/
  complete : a.complete = a'.complete

theorem Response.Alike.refl (format : SourceFormat) (errand : Errand) (a : Response) :
    a.Alike format errand a :=
  ⟨.same _, rfl, rfl⟩

/-- **A reply makes the same of a request**: no response, or one of two. -/
theorem Reply.outcome_alike {format : SourceFormat} {errand : Errand} {r r' : Reply}
    (h : r.Alike format errand r') (url : Url) :
    Parallel (Response.Alike format errand) (r.outcome url) (r'.outcome url) := by
  cases h with
  | same =>
    cases r with
    | drop => exact .failed _
    | respond => exact .ok (.refl format errand _)
  | @body status headers body body' complete success h =>
    -- a status without a body has none on either side
    have raw : RawResponse.Alike format errand
        ⟨status, headers, if status.isBodiless then [] else body⟩
        ⟨status, headers, if status.isBodiless then [] else body'⟩ := by
      split
      · exact .same _
      · exact .body headers success h
    refine .ok ?_
    exact ⟨raw, rfl, rfl⟩

/-! ## §3. Worlds. -/

/-- Two answers of the application: the same error, or two tokens. -/
inductive SubjectReply.Alike : SubjectReply → SubjectReply → Prop where
  /-- They do not differ. -/
  | same (reply : SubjectReply) : Alike reply reply
  /-- Two tokens. -/
  | token (value value' : String) : Alike (.token value) (.token value')

/-- **Two records of a log**: the same, or the warnings that a fetch failed with one or the other of
two errors that tell of secrets. -/
inductive LogRecord.Alike : LogRecord → LogRecord → Prop where
  /-- They do not differ. -/
  | same (r : LogRecord) : Alike r r
  /-- They tell of secrets. -/
  | failed {e e' : AuthError} (h : e.Apart e') :
      Alike (TokenCache.settleRecord (.error e)) (TokenCache.settleRecord (.error e'))

/-- **Two worlds differ in secrets only**; `errands` are those of the requests to come. -/
structure World.Alike (source : SubjectSource) (errands : List Errand) (w w' : World) : Prop where
  /-- Somebody listens in both, or nobody. -/
  listening : w.network.listening = w'.network.listening
  /-- The replies. -/
  script : ScriptsAlike source.format errands w.network.script w'.network.script
  /-- The files. -/
  files : w.files.Alike source w'.files
  /-- The clocks. -/
  clock : w.clock = w'.clock
  /-- The answers of the application. -/
  subjects : List.Forall₂ SubjectReply.Alike w.subjects w'.subjects
  /-- What has been logged so far. -/
  log : List.Forall₂ LogRecord.Alike w.log w'.log

theorem World.Alike.note {source : SubjectSource} {errands : List Errand} {w w' : World}
    (h : w.Alike source errands w') {r r' : LogRecord} (records : r.Alike r') :
    (w.note r).Alike source errands (w'.note r') :=
  { h with log := .cons records h.log }

/-- What is logged at the end of a fetch. -/
theorem settleRecord_alike {outcome outcome' : Outcome}
    (h : Ended AccessToken.Alike outcome outcome') :
    (TokenCache.settleRecord outcome).Alike (TokenCache.settleRecord outcome') := by
  cases h with
  | ok h =>
    unfold TokenCache.settleRecord
    dsimp only
    rw [h.expiry]
    exact .same _
  | same e => exact .same _
  | apart h => exact .failed h

end WorkloadIdentity
