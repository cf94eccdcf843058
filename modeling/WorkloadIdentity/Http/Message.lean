/-
  WorkloadIdentity.Http.Message ──── **REQUESTS AND RESPONSES.**

  ✓ `Request.replay?` — a request can be sent again unless its body is a stream
  ✓ `RawResponse`     — a response that has been read whole
-/
import WorkloadIdentity.Http.Headers
import WorkloadIdentity.Http.Status
import WorkloadIdentity.Http.Url

namespace WorkloadIdentity

/-! ## §1. Requests. -/

/-- What a request carries. -/
inductive Body where
  /-- Nothing. -/
  | none
  /-- Bytes in memory. -/
  | bytes (content : List UInt8)
  /-- Bytes that can be taken once only. -/
  | stream (content : List UInt8)
  deriving DecidableEq

/-- The bytes that are sent. -/
def Body.content : Body → List UInt8
  | .none => []
  | .bytes content => content
  | .stream content => content

/-- A request. -/
structure Request where
  /-- The method. -/
  method : String
  /-- Where it goes. -/
  url : Url
  /-- The headers that the caller set. -/
  headers : Headers
  /-- What it carries. -/
  body : Body
  deriving DecidableEq

/-- A second copy of a request, if its body can be taken twice. -/
def Request.replay? (r : Request) : Option Request :=
  match r.body with
  | .stream _ => none
  | _ => some r

/-! ## §2. Responses. -/

/-- A response whose body has been read whole. -/
structure RawResponse where
  /-- The status. -/
  status : Status
  /-- The headers. -/
  headers : Headers
  /-- The body. -/
  body : List UInt8
  deriving DecidableEq

/-- The body as a text, with faults in its UTF-8 replaced. -/
def RawResponse.text (r : RawResponse) : String := Utf8.decodeLossy r.body

/-- A response whose body has yet to be read, and whether reading it will succeed. -/
structure Response where
  /-- What was received. -/
  raw : RawResponse
  /-- Where the request went. -/
  url : Url
  /-- Whether the body arrives whole. -/
  complete : Bool
  deriving DecidableEq

end WorkloadIdentity
