import WorkflowRelease.Workflow.NodeKind

/-!
# References of a workflow

Every code that a workflow binds to outside itself (`extract_references`): rule packs, agent
profiles, parameters, data connectors and the workflows it calls. Codes are sorted sets; calls and
nodes without a pack keep the order of the nodes.
-/

namespace WorkflowRelease

/-- A node that calls another workflow (`SubflowTarget`). -/
structure SubflowTarget where
  nodeId : String
  nodeName : String
  definitionId : Option String
  versionId : Option String
deriving DecidableEq

/-- A rule node that evaluates a pack and names none (`MissingRulePack`). -/
structure MissingPack where
  nodeId : String
  nodeName : String
deriving DecidableEq

structure References where
  rulePackCodes : List String
  agentCodes : List String
  parameterCodes : List String
  dataConnectorCodes : List String
  agentBindings : List String
  paramSetBindings : List String
  dataConnectorBindings : List String
  subflows : List SubflowTarget
  missingPacks : List MissingPack
deriving DecidableEq

namespace Node

/-- The packs of a node that evaluates packs. -/
def usedPacks (n : Node) : List String :=
  match n.kind with
  | .rule .decisionPack codes => codes
  | _ => []

def missingPack? (n : Node) : Option MissingPack :=
  match n.kind with
  | .rule .decisionPack [] => some ⟨n.id, n.name⟩
  | _ => none

def agentCode? (n : Node) : Option String :=
  match n.kind with
  | .agent code => code
  | _ => none

def subflow? (n : Node) : Option SubflowTarget :=
  match n.kind with
  | .subflow definitionId versionId => some ⟨n.id, n.name, definitionId, versionId⟩
  | _ => none

/-- The values of a node that may hold template expressions. -/
def templated (n : Node) : List Json :=
  [.object n.config, (n.inputBindings.map Json.object).getD .null]

end Node

/-- A condition as a value that may hold template expressions. -/
def Edge.templated (e : Edge) : Json := e.condition.getD .null

namespace Workflow

/-- The values of a workflow that may hold template expressions. -/
def templated (w : Workflow) : List Json :=
  w.nodes.flatMap Node.templated ++ w.edges.map Edge.templated

/-- The parameters that template expressions refer to, sorted (`parameter_codes`). -/
def parameterCodes (w : Workflow) : List String :=
  Expression.parameterCodes (Expression.inValues w.templated)

/-- The parameter sets that the workflow is bound to. -/
def boundSets (w : Workflow) : List String := cleanCodes w.paramSetBindings

/-- Everything that the workflow refers to outside itself. -/
def references (w : Workflow) : References where
  rulePackCodes := Text.sorted (w.nodes.flatMap Node.usedPacks)
  agentCodes := Text.sorted (w.nodes.filterMap Node.agentCode? ++ cleanCodes w.agentBindings)
  parameterCodes := w.parameterCodes
  dataConnectorCodes := Text.sorted (cleanCodes w.dataConnectorBindings)
  agentBindings := cleanCodes w.agentBindings
  paramSetBindings := w.boundSets
  dataConnectorBindings := cleanCodes w.dataConnectorBindings
  subflows := w.nodes.filterMap Node.subflow?
  missingPacks := w.nodes.filterMap Node.missingPack?

end Workflow

end WorkflowRelease
