import WorkflowRelease.Failure
import WorkflowRelease.Release.Clock
import WorkflowRelease.Release.Place
import WorkflowRelease.Release.VersionCode
import WorkflowRelease.Structure.Validate

/-!
# Refusals

Why a service refuses what it is asked for. A refusal is a failure to report, or the faults of a
record, or else an accident: something that is too large, too deep or not there, which is reported
for itself. All refusals but those that `isOfWriting` tells apart come before anything is written.
-/

namespace WorkflowRelease

inductive Refusal where
  /-- The definition is not there, or is not the user's to see or to change. -/
  | noDefinition (id : String)
  | noVersion (key : String)
  | workflowIdTaken (workflowId : String)
  | archived (definitionId : String)
  | alreadyPublished (versionCode : String)
  /-- The definition has changed since it was looked at. -/
  | outdated (definitionId : String)
  /-- The document to save is no workflow. -/
  | malformed (faults : List Fault)
  | rejected (stage : Stage) (verdict : Verdict)
  | brokenSnapshot (versionId : String) (faults : List Fault)
  | pageNotPositive
  | unreadable (faults : List Fault)
  /-- A definition was to be made for somebody who is no user. -/
  | noOwner
  /-- A number is beyond the range of doubles. -/
  | beyondDouble
  /-- There is no code after the highest one. -/
  | codesExhausted
  /-- A workflow has an entry that is too deep for a snapshot. -/
  | snapshotTooDeep
  /-- A snapshot has an entry that is too deep to be stored. -/
  | documentTooDeep
  /-- The clock shows no time. -/
  | noTime (fault : Clock.Fault)
  /-- The name that the id of the definition leads to is too long to be looked for. -/
  | nameTooLong
  /-- Nothing can be stored under the id of the definition. -/
  | noPlace (fault : Place.Fault)
  /-- The disk has failed while a document was written. -/
  | notWritten (message : String)
  /-- A version is published, but there is no file for the audit trail. -/
  | noAuditLog (message : String)
  /-- The gate is of a kind that no version number is compared with. -/
  | unordered (kind : String)
deriving DecidableEq

namespace Refusal

/-- How failures call a definition. -/
def definitionName : String := "WorkflowDefinition"

/-- How failures call a version. -/
def versionName : String := "WorkflowVersion"

/-- The failure to report. -/
def failure? : Refusal → Option Failure
  | noDefinition id => some (.notFound (.text definitionName) (.text id))
  | noVersion key => some (.notFound (.text versionName) (.text key))
  | workflowIdTaken workflowId =>
    some (.invalid (.text ("Workflow '" ++ workflowId ++ "' already exists"))
      (.text "workflow_id"))
  | archived id =>
    some (.conflict (.text ("Workflow definition '" ++ id ++ "' is archived"))
      (.text definitionName))
  | alreadyPublished code =>
    some (.conflict (.text ("Workflow version '" ++ code ++ "' is already published"))
      (.text versionName))
  | outdated id =>
    some (.conflict (.text ("Workflow definition '" ++ id ++
      "' changed while publishing, retry the publish")) (.text definitionName))
  | malformed faults => some (.rejected .save ⟨Structure.schemaIssues faults⟩)
  | rejected stage verdict => some (.rejected stage verdict)
  | brokenSnapshot versionId _ => some (.brokenSnapshot (.text versionId))
  | pageNotPositive =>
    some (.invalid (.text "page and page_size must be positive") (.text "page"))
  | _ => none

/-- The faults of the record that is to blame. -/
def faults : Refusal → List Fault
  | malformed faults => faults
  | brokenSnapshot _ faults => faults
  | unreadable faults => faults
  | noOwner => [{ cause := .notText, place := [.key "owner_user_id"] }]
  | _ => []

/-- What is said about an accident. -/
def message? : Refusal → Option String
  | beyondDouble => some "int too large to convert to float"
  | codesExhausted => some (VersionCode.excess none)
  | snapshotTooDeep => some Json.tooDeep
  | documentTooDeep => some ("Error serializing to JSON: ValueError: " ++ Json.tooDeep)
  | noTime fault => some fault.message
  | nameTooLong => some Place.Fault.tooLong.message
  | noPlace fault => some fault.message
  | notWritten message => some message
  | noAuditLog message => some message
  | unordered kind =>
    some ("'<' not supported between instances of 'int' and '" ++ kind ++ "'")
  | _ => none

/-- The refusal comes when a change is being written, or afterwards. -/
def isOfWriting : Refusal → Bool
  | documentTooDeep | noPlace _ | notWritten _ | noAuditLog _ => true
  | _ => false

end Refusal

end WorkflowRelease
