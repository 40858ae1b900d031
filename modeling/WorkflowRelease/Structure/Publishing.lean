import WorkflowRelease.Issue
import WorkflowRelease.Workflow.NodeKind
import WorkflowRelease.Workflow.Graph

/-!
# Rules for publishing

Rules that hold only for what is to be published: a risk gate, a complete run policy, evidence of
three kinds, and an experiment whose traffic adds up. Sums of traffic are sums of doubles, so an
integer beyond their range has no sum; that is the one way in which validation fails.
-/

namespace WorkflowRelease.Structure

/-- An integer beyond the range of doubles stands where a number is wanted. -/
inductive Overflow where
  | beyondDouble
deriving DecidableEq, Repr

/-- What `_check_risk_gate_exists` finds. -/
def riskGate (g : Graph) : List Issue :=
  if g.nodes.any (·.type = "risk-gate") then []
  else [.broken .riskGate "A risk-gate node is required before publishing"]

/-- The parts of a complete policy. -/
def policyFields : List String := ["timeoutMs", "retryCount", "retryBackoffMs", "onError"]

/-- The names that a policy sets. -/
def policyNames (p : Option NodePolicy) : List String := Fields.keys ((p.map (·.snapshot)).getD [])

/-- The parts of the policy that neither the node nor the defaults set. -/
def missingPolicy (defaults : List String) (n : Node) : List String :=
  policyFields.filter fun name =>
    name ∉ policyNames n.policy ∧ (n.config.value? name).isNone ∧ name ∉ defaults

/-- What `_check_run_policy_coverage` finds. -/
def runPolicy (w : Workflow) (g : Graph) : List Issue :=
  let defaults := policyNames (w.runPolicy.bind (·.nodeDefaults))
  g.nodes.filterMap fun n =>
    if !n.enabled ∨ n.kind = .trigger then none
    else match missingPolicy defaults n with
      | [] => none
      | names => some ((Issue.broken .runPolicy ("Run policy incomplete for " ++ n.name ++
          ": missing " ++ ", ".intercalate names)).atNode n.id)

/-- Types whose nodes give evidence by a model. -/
def modelTypes : List String := agentTypes ++ ["debate-round"]

/-- What `_check_evidence_chain` finds. -/
def evidence (g : Graph) : List Issue :=
  let types := g.nodes.map (·.type)
  if "risk-gate" ∉ types then []
  else
    let missing :=
      (if types.any isDataFetchType then [] else ["data evidence"]) ++
      (if types.any (· ∈ ruleTypes) then [] else ["rule evidence"]) ++
      (if types.any (· ∈ modelTypes) then [] else ["model evidence"])
    match missing with
    | [] => []
    | names =>
      [.broken .evidence ("Evidence chain incomplete, missing: " ++ ", ".intercalate names)]

/-! ## Experiments -/

/-- The double that a value stands for, if it is a number (`_is_number`). -/
def number? : Json → Except Overflow (Option Binary64)
  | .int n =>
    let x := Binary64.ofInt n
    if x.isFinite then .ok (some x) else .error .beyondDouble
  | .float x => .ok (if x.isFinite then some x else none)
  | _ => .ok none

def rolloutIssue (message : String) : Issue := .broken .rollout ("experimentConfig." ++ message)

/-- The entry is a text that is not blank. -/
def hasText (o : Fields) (key : String) : Bool :=
  match o.get? key with
  | some (.text s) => !Text.isBlankText s
  | _ => false

/-- The issues of the variants, and the traffic so far with theirs added. -/
def variantIssues (total : Binary64) : List Json → Except Overflow (List Issue × Binary64)
  | [] => .ok ([], total)
  | .object o :: rest => do
    let version := if hasText o "version" then []
      else [rolloutIssue "variants[].version must be a non-empty string"]
    match ← number? ((Fields.get? o "traffic").getD .null) with
    | some x =>
      if x.le .zero then
        let (issues, sum) ← variantIssues total rest
        .ok (version ++
          rolloutIssue "variants[].traffic must be a positive number" :: issues, sum)
      else
        let (issues, sum) ← variantIssues (total.add x) rest
        .ok (version ++ issues, sum)
    | none =>
      let (issues, sum) ← variantIssues total rest
      .ok (version ++ rolloutIssue "variants[].traffic must be a positive number" :: issues, sum)
  | _ :: rest => do
    let (issues, sum) ← variantIssues total rest
    .ok (rolloutIssue "variants entries must be objects" :: issues, sum)

/-- One millionth. -/
def tolerance : Binary64 := .ofDecimal false 1 (-6)

/-- The total is a whole up to a millionth. -/
def isNear (total : Binary64) (whole : Int) : Bool :=
  ((total.sub (.ofInt whole)).abs).lt tolerance

def splitPolicies : List String := ["RANDOM", "HASH", "USER_HASH"]

def splitPolicyIssues (experiment : Fields) : List Issue :=
  match experiment.get? "splitPolicy" with
  | none => []
  | some (.text s) => if s ∈ splitPolicies then [] else [issue]
  | some _ => [issue]
where
  issue : Issue := rolloutIssue ("splitPolicy must be one of " ++ "/".intercalate splitPolicies)

/-- The value is a number from zero to one. -/
def isShare (v : Json) : Except Overflow Bool := do
  match ← number? v with
  | some x => .ok (Binary64.zero.le x && x.le (.ofInt 1))
  | none => .ok false

def autoStopIssues (experiment : Fields) : Except Overflow (List Issue) :=
  match experiment.get? "autoStop" with
  | some (.object stop) =>
    if Fields.get? stop "enabled" = some (.bool true) then do
      if ← isShare ((Fields.get? stop "badCaseThreshold").getD .null) then .ok []
      else .ok [rolloutIssue "autoStop.badCaseThreshold must be within [0, 1]"]
    else .ok []
  | _ => .ok []

/-- The issues of an experiment that is switched on. -/
def experimentIssues (experiment : Fields) : Except Overflow (List Issue) := do
  let code := if hasText experiment "experimentCode" then []
    else [rolloutIssue "enabled=true requires experimentCode"]
  let variants := ((experiment.get? "variants").bind Json.list?).getD []
  if variants.length < 2 then
    .ok (code ++ [rolloutIssue "enabled=true requires at least 2 variants"])
  else
    let (issues, total) ← variantIssues .zero variants
    let sum := if isNear total 1 || isNear total 100 then []
      else [rolloutIssue ("variants traffic must sum to 1 or 100, got " ++ total.brief)]
    let stop ← autoStopIssues experiment
    .ok (code ++ issues ++ sum ++ splitPolicyIssues experiment ++ stop)

/-- What `_check_experiment_config` finds. -/
def rollout (w : Workflow) : Except Overflow (List Issue) :=
  match w.experimentConfig with
  | some experiment =>
    if experiment.get? "enabled" = some (.bool true) then experimentIssues experiment else .ok []
  | none => .ok []

end WorkflowRelease.Structure
