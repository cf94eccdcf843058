/-
  WorkloadIdentity.World ──── **EVERYTHING OUTSIDE, AS A VALUE.**

  The network, the files, the clock, the application's own source of subject tokens and the log
  are one value, and whatever reaches outside is a function on it.  **RULE**: an action that fails
  keeps what it has done to the world until then.

  ✓ `World`, `Act`            — the value, and actions on it
  ✓ `Act.exchange`, `Act.call` — a request and its answer, read whole
-/
import WorkloadIdentity.Error.Auth
import WorkloadIdentity.Log
import WorkloadIdentity.Time.Clock

namespace WorkloadIdentity

/-! ## §1. The world. -/

/-- What the application's own source answers: a subject token, or an error of its own. -/
inductive SubjectReply where
  /-- A token. -/
  | token (value : String)
  /-- An error. -/
  | failure (transient : Bool) (message : String)

/-- The world outside. -/
structure World where
  /-- What is behind the client. -/
  network : Network
  /-- The files. -/
  files : FileSystem
  /-- The clock. -/
  clock : Clock
  /-- What the application's own source will answer. -/
  subjects : List SubjectReply
  /-- The log, the last record first. -/
  log : List LogRecord

/-- Add a record to the log. -/
def World.note (r : LogRecord) (w : World) : World := { w with log := r :: w.log }

/-! ## §2. Actions. -/

/-- An action on the world that may fail. -/
abbrev Act (α : Type) := ExceptT AuthError (StateM World) α

namespace Act

/-- Log something. -/
def note (r : LogRecord) : Act Unit := modifyThe World (World.note r)

/-- The reading of the clock. -/
def now : Act Int := do return (← getThe World).clock.now

/-- The result of a step that touches nothing. -/
def lift {α : Type} (r : Except AuthError α) : Act α :=
  match r with
  | .ok x => pure x
  | .error e => throw e

/-! ## §3. Requests. -/

/-- The request to a URL that is given as a text. -/
def prepare (method url : String) (headers : Headers) (body : Body) : Except ClientError Request :=
  match Url.parse url with
  | .error _ => .error (.builder none)
  | .ok u => .ok ⟨method, u, headers, body⟩

/-- Send a request and wait for the head of the response. -/
def send (errand : Errand) (r : Request) : Act Response := do
  let w ← getThe World
  let (outcome, network) := w.network.send errand r
  set { w with network := network }
  match outcome with
  | .ok response => return response
  | .error e => throw (.ofClient errand.doing e)

/-- **Send a request and read the answer**, whatever its status. -/
def exchange (errand : Errand) (method url : String) (headers : Headers) (body : Body) :
    Act RawResponse := do
  match prepare method url headers body with
  | .error e => throw (.ofClient errand.doing e)
  | .ok request =>
    match (← send errand request).read with
    | .error e => throw (.ofClient errand.doing e)
    | .ok raw => return raw

/-- **Send a request and read a successful answer**; any other is an error. -/
def call (errand : Errand) (method url : String) (headers : Headers) (body : Body) :
    Act RawResponse := do
  let raw ← exchange errand method url headers body
  if raw.status.isSuccess then return raw else throw (.ofAnswer errand.doing raw)

/-- The record in the body of an answer. -/
def decode {σ α : Type} (record : Json.TextRecord σ α) (doing : String) (raw : RawResponse) :
    Except AuthError α :=
  match record.parse raw.body with
  | .ok x => .ok x
  | .error e => .error (.ofBody doing e)

end Act

end WorkloadIdentity
