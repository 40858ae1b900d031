import WorkflowRelease.Expression.Codes
import WorkflowRelease.Workflow.Basic

/-!
# Kinds of nodes

The type of a node is an open tag. Its kind is closed and carries the entries of the node's
configuration that validation looks at (`classify_node`); a tag that is not known makes a generic
node.
-/

namespace WorkflowRelease

/-- What a rule node evaluates. -/
inductive RuleSource where
  | decisionPack
  | inlineRules
deriving DecidableEq, Repr

instance : LawfulChoice RuleSource where
  title := "RuleSource"
  members := [.decisionPack, .inlineRules]
  word | .decisionPack => "DECISION_RULE_PACK" | .inlineRules => "INLINE"
  mem_members a := by cases a <;> simp
  word_inj a b := by cases a <;> cases b <;> simp

/-- The kinds of nodes. -/
inductive NodeKind where
  | trigger
  | output
  | approval
  | riskGate (profileCode : Option String)
  | join (policy : Option String) (quorumBranches : Json)
  | decisionMerge
  | rule (source : RuleSource) (packCodes : List String)
  | agent (profileCode : Option String)
  | debateRound
  | contextBuilder
  | subflow (definitionId versionId : Option String)
  | dataFetch
  | generic
deriving DecidableEq

/-- Types of output nodes, unless a service is set up with others. -/
def outputTypes : List String := ["notify", "report-generate", "dashboard-publish"]

def ruleTypes : List String := ["rule-pack-eval", "rule-eval", "alert-check"]

def agentTypes : List String := ["single-agent", "agent-call", "agent-group", "judge-agent"]

def isTriggerType (type : String) : Bool :=
  type = "trigger" || "-trigger".toList.isSuffixOf type.toList

def isDataFetchType (type : String) : Bool :=
  type = "data-fetch" || "-fetch".toList.isSuffixOf type.toList

namespace Node

/-- The code under a key of the configuration. -/
def configCode? (n : Node) (key : String) : Option String :=
  ((n.config.get? key).bind Json.text?).bind code?

/-- The rule packs that a configuration names (`_rule_pack_codes`): the single one, then those of
the list. -/
def packCodes (n : Node) : List String :=
  let many := ((n.config.get? "rulePackCodes").bind Json.list?).getD []
  Text.distinct ((n.configCode? "rulePackCode").toList ++
    many.filterMap fun v => v.text?.bind code?)

/-- Keys under which an alert check declares rules of its own. -/
def inlineRuleKeys : List String := ["alertRules", "alertType", "threshold", "conditions"]

/-- The value is neither nothing nor empty. -/
def isGiven : Json → Bool
  | .null => false
  | .text s => s ≠ ""
  | .list items => !items.isEmpty
  | .object fields => !fields.isEmpty
  | _ => true

/-- What a rule node evaluates (`resolve_rule_source`). Two types settle it; otherwise the
configuration may say it, and else a node that declares rules of its own evaluates those. -/
def ruleSource (n : Node) : RuleSource :=
  if n.type = "rule-pack-eval" then .decisionPack
  else if n.type = "rule-eval" then .inlineRules
  else match (n.configCode? "ruleSource").bind Choice.ofWord? with
    | some source => source
    | none =>
      if inlineRuleKeys.any fun key => isGiven ((n.config.get? key).getD .null) then .inlineRules
      else .decisionPack

/-- The node decides a debate. -/
def isJudge (n : Node) : Bool := n.type = "judge-agent"

/-- The kind that the node's type stands for. -/
def kind (n : Node) : NodeKind :=
  if n.type = "approval" then .approval
  else if n.type = "risk-gate" then .riskGate (n.configCode? "riskProfileCode")
  else if n.type = "join" then
    .join (n.configCode? "joinPolicy") ((n.config.get? "quorumBranches").getD .null)
  else if n.type = "decision-merge" then .decisionMerge
  else if n.type = "debate-round" then .debateRound
  else if n.type = "context-builder" then .contextBuilder
  else if n.type = "subflow-call" then
    .subflow (n.configCode? "workflowDefinitionId") (n.configCode? "workflowVersionId")
  else if n.type ∈ outputTypes then .output
  else if n.type ∈ ruleTypes then .rule n.ruleSource n.packCodes
  else if n.type ∈ agentTypes then .agent (n.configCode? "agentProfileCode")
  else if isTriggerType n.type then .trigger
  else if isDataFetchType n.type then .dataFetch
  else .generic

end Node

end WorkflowRelease
