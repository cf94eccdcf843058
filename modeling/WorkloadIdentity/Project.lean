/-
  WorkloadIdentity.Project ──── **THE PROJECT BEHIND AN AUDIENCE.**

  The number of the project stands in the audience, in the segment after `projects`; its id has to
  be asked for.

  ✓ `projectNumber?` — the number
  ✓ `Project.lookup` — the id
-/
import WorkloadIdentity.World

namespace WorkloadIdentity

/-! ## §1. The number. -/

/-- What stands before the number. -/
def projectsMark : List Char := "/projects/".toList

/-- The number in the text after the mark: a segment that is not empty. -/
def segmentAfter? (text : List Char) : Option (List Char) :=
  match text.takeWhile (· != '/') with
  | [] => none
  | number => some number

/-- What follows each occurrence of a mark in a text, in order.  Occurrences do not overlap: of the
last one that was found, `inside` items are still to come. -/
def afterMarks {α : Type} [BEq α] (mark : List α) : Nat → List α → List (List α)
  | _, [] => []
  | inside + 1, _ :: rest => afterMarks mark inside rest
  | 0, c :: rest =>
    if mark.isPrefixOf (c :: rest) then
      (c :: rest).drop mark.length :: afterMarks mark (mark.length - 1) rest
    else afterMarks mark 0 rest

/-- The first segment after a mark that is not empty. -/
def projectNumberIn? (text : List Char) : Option (List Char) :=
  (afterMarks projectsMark 0 text).findSome? segmentAfter?

/-- **The number of the project in an audience.** -/
def projectNumber? (audience : String) : Option String :=
  (projectNumberIn? audience.toList).map String.ofList

/-! ## §2. The id. -/

namespace Project

/-- What has been read of an answer is the id, and the answer is the id too. -/
def record : Json.TextRecord (Option String) String where
  title := "struct ProjectResponse"
  blank := none
  fields := [.of "projectId" Json.readString id fun _ s => some s]
  finish d :=
    match d with
    | none => .error (.missing "projectId")
    | some projectId => .ok projectId

/-- **Ask for the id of a project** at the URL that its number completes. -/
def lookup (baseUrl number : String) (headers : Headers) : Act String := do
  let raw ← Act.call .projectId "GET" (baseUrl ++ number) headers .none
  let projectId ← Act.lift (Act.decode record Errand.projectId.doing raw)
  Act.note (.debug "resolved project id" [("project_number", number), ("project_id", projectId)])
  return projectId

end Project

end WorkloadIdentity
