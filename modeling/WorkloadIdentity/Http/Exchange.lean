/-
  WorkloadIdentity.Http.Exchange ──── **SENDING A REQUEST INTO THE WORLD.**

  The world behind the client is a script: each request that arrives takes the next reply.
  **RULE**: a request arrives, and is recorded, exactly if somebody listens; when the script is at
  its end the connection drops.

  ✓ `Errand`        — what a request is sent for
  ✓ `Network.send`  — one request, one outcome
  ✓ `ClientError`   — the failures of a client, with their wording
-/
import WorkloadIdentity.Http.Message

namespace WorkloadIdentity

/-! ## §1. Failures. -/

/-- Why there is no response. -/
inductive ClientError where
  /-- The request has no URL, or one that HTTP cannot use. -/
  | builder (url : Option Url)
  /-- The connection failed. -/
  | sending (url : Url)
  /-- The body did not arrive whole. -/
  | reading (url : Url)
  deriving DecidableEq

/-- The wording of a failure. -/
def ClientError.message : ClientError → String
  | .builder none => "builder error"
  | .builder (some url) => "builder error for url (" ++ url.text ++ ")"
  | .sending url => "error sending request for url (" ++ url.text ++ ")"
  | .reading url => "error decoding response body for url (" ++ url.text ++ ")"

/-! ## §2. Errands. -/

/-- What a request is sent for. -/
inductive Errand where
  /-- A subject token. -/
  | subjectToken
  /-- The trade of a subject token for an access token. -/
  | exchange
  /-- A token of a service account. -/
  | impersonation
  /-- The id of a project. -/
  | projectId
  /-- What the application itself asks. -/
  | target
  deriving DecidableEq

/-- The words for what is being done. -/
def Errand.doing : Errand → String
  | .subjectToken => "failed to request subject token"
  | .exchange => "failed to exchange subject token"
  | .impersonation => "failed to generate service account access token"
  | .projectId => "failed to fetch project id"
  | .target => "failed to send authenticated request"

/-- A request that arrived, and what it was sent for. -/
structure Arrival where
  /-- What for. -/
  errand : Errand
  /-- The request. -/
  request : Request
  deriving DecidableEq

/-! ## §3. The script. -/

/-- What happens to a request that arrives. -/
inductive Reply where
  /-- A response; the body may be cut off. -/
  | respond (status : Status) (headers : Headers) (body : List UInt8) (complete : Bool)
  /-- The connection drops. -/
  | drop

/-- The world behind the client. -/
structure Network where
  /-- Whether somebody listens. -/
  listening : Bool
  /-- The replies to come. -/
  script : List Reply
  /-- The requests that arrived, the last one first. -/
  arrived : List Arrival

/-- Statuses whose responses have no body. -/
def Status.isBodiless (s : Status) : Bool := s == 204 || s == 304

/-- The response of a reply. -/
def Reply.outcome (url : Url) : Reply → Except ClientError Response
  | .respond status headers body complete =>
    .ok ⟨⟨status, headers, if status.isBodiless then [] else body⟩, url, complete⟩
  | .drop => .error (.sending url)

/-- **Send a request.** -/
def Network.send (n : Network) (errand : Errand) (r : Request) :
    Except ClientError Response × Network :=
  if !r.url.isHttp then (.error (.builder (some r.url)), n)
  else if !n.listening then (.error (.sending r.url), n)
  else
    match n.script with
    | [] => (.error (.sending r.url), { n with arrived := ⟨errand, r⟩ :: n.arrived })
    | reply :: rest =>
      (reply.outcome r.url, { n with script := rest, arrived := ⟨errand, r⟩ :: n.arrived })

/-- Read the body of a response. -/
def Response.read (r : Response) : Except ClientError RawResponse :=
  if r.complete then .ok r.raw else .error (.reading r.url)

end WorkloadIdentity
