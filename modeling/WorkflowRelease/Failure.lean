import WorkflowRelease.Issue
import WorkflowRelease.Json.Literal

/-!
# Failures

What a caller is told when something cannot be done (`FlowgateError` and what is below it): a
message, a status that tells the tiers of failures apart (400 for what is not valid, 404 for what is
not there, 409 for a state that forbids it), and details. A failure keeps what it is made of as it
is given, of whatever type.
-/

namespace WorkflowRelease

inductive Failure where
  | general (message : Json) (status : Json := .int 500) (details : Json := .null)
  | notFound (resource identifier : Json) (details : Json := .null)
  | invalid (message : Json) (field : Json := .null) (details : Json := .null)
  | conflict (message : Json) (resource : Json := .null) (details : Json := .null)
  /-- A workflow that validation refuses at a stage. -/
  | rejected (stage : Stage) (verdict : Verdict) (message : Json := .null)
  /-- The snapshot of a stored version is no workflow. -/
  | brokenSnapshot (versionId : Json) (reason : Json := .text "")
deriving DecidableEq

namespace Failure

/-- What a rejection says that is given no message (`WorkflowValidationError`). -/
def rejection (stage : Stage) (verdict : Verdict) : String :=
  "Workflow DSL failed " ++ Choice.word stage ++ " validation: " ++ verdict.codeList

def message : Failure → Json
  | general message _ _ => message
  | notFound resource identifier _ =>
    .text (resource.shown ++ " not found: " ++ identifier.shown)
  | invalid message _ _ => message
  | conflict message _ _ => message
  | rejected stage verdict message =>
    if message.isFalsy then .text (rejection stage verdict) else message
  | brokenSnapshot versionId reason =>
    .text ("Stored DSL snapshot of version '" ++ versionId.shown ++ "' is invalid: " ++
      reason.shown)

def status : Failure → Json
  | general _ status _ => status
  | notFound .. => .int 404
  | invalid .. => .int 400
  | conflict .. => .int 409
  | rejected .. => .int 400
  | brokenSnapshot .. => .int 400

/-- Details that are given; what counts as unset is no detail. -/
def givenDetails (details : Json) : Json := if details.isFalsy then .object [] else details

def details : Failure → Json
  | general _ _ details => givenDetails details
  | notFound _ _ details => givenDetails details
  | invalid _ _ details => givenDetails details
  | conflict _ _ details => givenDetails details
  | rejected stage verdict _ =>
    .object [("stage", .word stage), ("issues", .list (verdict.issues.map Issue.toJson))]
  | brokenSnapshot versionId _ => .object [("version_id", versionId)]

/-- The field that is to blame. -/
def field : Failure → Json
  | invalid _ field _ => field
  | rejected .. => .text "dsl"
  | _ => .null

end Failure

end WorkflowRelease
