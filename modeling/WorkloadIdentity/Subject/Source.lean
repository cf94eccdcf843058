/-
  WorkloadIdentity.Subject.Source ──── **WHERE SUBJECT TOKENS COME FROM.**

  A file, a URL, or the application itself.  **RULE**: every retrieval is a fresh one.

  ✓ `SubjectSource.retrieve`    — one subject token
  ✓ `SubjectSource.urlHeaders`  — the headers that are sent to a URL
-/
import WorkloadIdentity.Subject.Format
import WorkloadIdentity.World

namespace WorkloadIdentity

/-! ## §1. Sources. -/

/-- A source. -/
inductive SubjectSource where
  /-- A file. -/
  | file (path : String) (format : SourceFormat)
  /-- A URL. -/
  | url (address : String) (headers : Headers) (format : SourceFormat)
  /-- The application. -/
  | application

namespace SubjectSource

/-- The headers of a list of names and values, added one after another. -/
def urlHeaders : List (String × String) → Except ConfigError Headers
  | pairs => add Headers.empty pairs
where
  /-- Add them to others. -/
  add (h : Headers) : List (String × String) → Except ConfigError Headers
    | [] => .ok h
    | (name, value) :: rest =>
      match HeaderName.ofString? name, HeaderValue.ofString? value with
      | none, _ => .error .headerName
      | some _, none => .error .headerValue
      | some n, some v => add (h.append n v) rest

/-! ## §2. Files. -/

/-- The words for a file that is not there, or is none. -/
def noFile (path : String) : String :=
  "the file at " ++ path ++ " does not exist, or it is not a file"

/-- The content of a file.  Links are followed, but what they lead to must be a regular file. -/
def readFile (path : String) : Act String := do
  let files := (← getThe World).files
  match files.resolve path with
  | .error e => throw (.unavailableFrom false (noFile path ++ ": " ++ e.message) (.file e))
  | .ok place =>
    if !files.isFile place then throw (.unavailable (noFile path))
    match files.textAt place with
    | .error e =>
      throw (.unavailableFrom false
        ("failed to read subject token file " ++ path ++ ": " ++ e.message) (.file e))
    | .ok content =>
      Act.note (.debug "read subject token file" [("file", path)])
      return content

/-! ## §3. URLs. -/

/-- The content behind a URL.  An unsuccessful answer is not looked into. -/
def readUrl (address : String) (headers : Headers) : Act String := do
  let raw ← Act.exchange .subjectToken "GET" address headers .none
  if !raw.status.isSuccess then throw (.ofUnknownBody Errand.subjectToken.doing raw)
  Act.note (.debug "fetched subject token" [("url", address)])
  return raw.text

/-! ## §4. The application. -/

/-- What is said of an application whose source has nothing more to say. -/
def exhausted : SubjectReply := .failure false "provider script exhausted"

/-- The next answer of the application. -/
def askApplication : Act String := do
  let w ← getThe World
  set { w with subjects := w.subjects.drop 1 }
  match w.subjects.head?.getD exhausted with
  | .token value => return value
  | .failure transient text =>
    throw (.unavailableFrom transient ("failed to fetch subject token: " ++ text) (.reported text))

/-! ## §5. Retrieval. -/

/-- **One subject token.** -/
def retrieve : SubjectSource → Act String
  | .file path format => do Act.lift (format.extract (← readFile path) path)
  | .url address headers format => do
    Act.lift (format.extract (← readUrl address headers) address)
  | .application => askApplication

end SubjectSource

end WorkloadIdentity
