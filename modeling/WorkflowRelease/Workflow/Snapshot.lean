import WorkflowRelease.Json.Extent
import WorkflowRelease.Workflow.Reading

/-!
# Snapshots

The document of a workflow (`to_snapshot`): every field that is set, under its name in a document.
What is not set is left out, while `null` inside free entries stays. There is no snapshot of a
workflow with a free entry that is too deep to be written out.
-/

namespace WorkflowRelease

/-- An entry for a value that may be missing. -/
def optionalField (key : String) (v : Option Json) : Fields :=
  match v with
  | none => []
  | some v => [(key, v)]

def Json.word {α : Type} [Choice α] (a : α) : Json := .text (Choice.word a)

/-- A word, or `null` for nothing. -/
def Json.ofWord? {α : Type} [Choice α] (a : Option α) : Json := (a.map Json.word).getD .null

def NodePolicy.snapshot (p : NodePolicy) : Fields :=
  optionalField "timeoutMs" (p.timeoutMs.map .int) ++
  optionalField "retryCount" (p.retryCount.map .int) ++
  optionalField "retryBackoffMs" (p.retryBackoffMs.map .int) ++
  optionalField "onError" (p.onError.map .word)

def RunPolicy.snapshot (p : RunPolicy) : Fields :=
  optionalField "nodeDefaults" (p.nodeDefaults.map fun d => .object d.snapshot) ++
  p.others.filter fun e => e.2 ≠ .null

def Node.snapshot (n : Node) : Fields :=
  [("id", .text n.id), ("type", .text n.type), ("name", .text n.name),
    ("enabled", .bool n.enabled), ("config", .object n.config)] ++
  optionalField "runtimePolicy" (n.policy.map fun p => .object p.snapshot) ++
  optionalField "inputBindings" (n.inputBindings.map .object) ++
  optionalField "outputSchema" n.outputSchema

def Edge.snapshot (e : Edge) : Fields :=
  [("id", .text e.id), ("from", .text e.source), ("to", .text e.target),
    ("edgeType", .word e.type)] ++
  optionalField "condition" e.condition

/-- The entries of a node that may be anything. -/
def Node.freeValues (n : Node) : List Json :=
  (n.config ++ n.inputBindings.getD []).map (·.2) ++ n.outputSchema.toList

/-- The entries of a workflow that may be anything. -/
def Workflow.freeValues (w : Workflow) : List Json :=
  w.nodes.flatMap Node.freeValues ++ w.edges.flatMap (·.condition.toList) ++
    ((w.runPolicy.map (·.others)).getD [] ++ w.outputConfig.getD [] ++
      w.experimentConfig.getD []).map (·.2)

/-- Every entry of the workflow can be written out. -/
def Workflow.isWritable (w : Workflow) : Bool := w.freeValues.all Json.isWritable

/-- The document of a workflow. -/
def Workflow.snapshot (w : Workflow) : Fields :=
  [("workflowId", .text w.workflowId), ("name", .text w.name)] ++
  optionalField "mode" (w.mode.map .word) ++
  optionalField "usageMethod" (w.usageMethod.map .word) ++
  [("version", .text w.version), ("status", .word w.status)] ++
  optionalField "ownerUserId" (w.ownerUserId.map .text) ++
  optionalField "templateSource" (w.templateSource.map .word) ++
  [("nodes", .list (w.nodes.map fun n => .object n.snapshot)),
    ("edges", .list (w.edges.map fun e => .object e.snapshot))] ++
  optionalField "runPolicy" (w.runPolicy.map fun p => .object p.snapshot) ++
  [("agentBindings", .texts w.agentBindings), ("paramSetBindings", .texts w.paramSetBindings),
    ("dataConnectorBindings", .texts w.dataConnectorBindings)] ++
  optionalField "outputConfig" (w.outputConfig.map .object) ++
  optionalField "experimentConfig" (w.experimentConfig.map .object)

end WorkflowRelease
