import WorkflowRelease.Json.Literal
import WorkflowRelease.Structure.Contracts
import WorkflowRelease.Structure.Publishing
import WorkflowRelease.Structure.Roles
import WorkflowRelease.Structure.Shape

/-!
# Structural validation

All rules about the graph of a workflow, each one checked on its own. For publishing, the rules for
saving come first and four more follow. Main statement: `issues_validate_publish`, the issues found
for saving are the first of those found for publishing.
-/

namespace WorkflowRelease.Structure

/-- What the rules for saving find. -/
def saveIssues (outputTypes : List String) (w : Workflow) : List Issue :=
  let g := Graph.ofWorkflow w
  requiredFields w ++ uniqueIds w ++ edgeEnds w g ++ connected g ++ singleChain w g ++
    acyclic w g ++ debateRoles w g ++ joinedBranches w g ++ approvalOutputs outputTypes g ++
    quorum g ++ fieldTypes w g ++ bindingSources g ++ parameters w ++ mergeFanIn g ++ conditions w

/-- What the further rules for publishing find. -/
def publishIssues (w : Workflow) : Except Overflow (List Issue) := do
  let g := Graph.ofWorkflow w
  let experiment ← rollout w
  .ok (riskGate g ++ runPolicy w g ++ evidence g ++ experiment)

/-- Validates a workflow at a stage. -/
def validate (outputTypes : List String) (w : Workflow) : Stage → Except Overflow Verdict
  | .save => .ok ⟨saveIssues outputTypes w⟩
  | .publish => do
    let further ← publishIssues w
    .ok ⟨saveIssues outputTypes w ++ further⟩

/-- The faults of a document that is no workflow, as issues (`schema_issues`). -/
def schemaIssues (faults : List Fault) : List Issue :=
  faults.map fun f =>
    .broken .requiredFields ("Invalid DSL at " ++
      (if f.placeText = "" then "dsl" else f.placeText) ++ ": " ++ f.message)

/-- Validates a document at a named stage (`validate_workflow_dsl`). A stage that is not known is
looked at first, then faults of the document; both are issues like others. -/
def validateDocument (outputTypes : List String) (document stage : Json) :
    Except Overflow Verdict :=
  match Stage.named? stage with
  | none => .ok ⟨[.broken .requiredFields ("Unknown validation stage: " ++ stage.literal)]⟩
  | some s =>
    match Workflow.reader document with
    | .valid w => validate outputTypes w s
    | .faulty faults => .ok ⟨schemaIssues faults⟩

theorem validate_save (outputTypes : List String) (w : Workflow) :
    validate outputTypes w .save = .ok ⟨saveIssues outputTypes w⟩ := rfl

theorem issues_validate_publish {outputTypes : List String} {w : Workflow} {v : Verdict}
    (h : validate outputTypes w .publish = .ok v) :
    ∃ further, publishIssues w = .ok further ∧ v.issues = saveIssues outputTypes w ++ further := by
  cases hp : publishIssues w with
  | error e => simp [validate, hp, bind, Except.bind] at h
  | ok further =>
    simp [validate, hp, bind, Except.bind] at h
    exact ⟨further, rfl, by rw [← h]⟩

end WorkflowRelease.Structure
