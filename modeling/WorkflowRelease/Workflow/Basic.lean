import WorkflowRelease.Workflow.Vocabulary

/-!
# Workflows

A workflow as a graph of nodes and edges with its identity, its run policy, and the codes it is
bound to (`WorkflowDsl`). Identity fields may be missing here; validation reports them.
-/

namespace WorkflowRelease

/-- How long a node may run and what follows a failure (`NodeRuntimePolicy`); what is not set is
left to others. -/
structure NodePolicy where
  timeoutMs : Option Int := none
  retryCount : Option Int := none
  retryBackoffMs : Option Int := none
  onError : Option OnError := none
deriving DecidableEq

/-- The policy of the whole workflow (`RunPolicy`). Entries it does not know are kept. -/
structure RunPolicy where
  nodeDefaults : Option NodePolicy := none
  others : Fields := []
deriving DecidableEq

/-- A step of a workflow (`WorkflowNode`). Its type is an open tag. -/
structure Node where
  id : String
  type : String
  name : String
  enabled : Bool := true
  config : Fields := []
  policy : Option NodePolicy := none
  inputBindings : Option Fields := none
  outputSchema : Option Json := none
deriving DecidableEq

/-- A connection between two nodes (`WorkflowEdge`). -/
structure Edge where
  id : String
  source : String
  target : String
  type : EdgeType := .control
  condition : Option Json := none
deriving DecidableEq

structure Workflow where
  workflowId : String := ""
  name : String := ""
  mode : Option Mode := none
  usageMethod : Option UsageMethod := none
  version : String := "1.0.0"
  status : SnapshotStatus := .draft
  ownerUserId : Option String := none
  templateSource : Option TemplateSource := none
  nodes : List Node := []
  edges : List Edge := []
  runPolicy : Option RunPolicy := none
  agentBindings : List String := []
  paramSetBindings : List String := []
  dataConnectorBindings : List String := []
  outputConfig : Option Fields := none
  experimentConfig : Option Fields := none
deriving DecidableEq

end WorkflowRelease
