import WorkflowRelease.Issue
import WorkflowRelease.Workflow.Topology

/-!
# Roles of nodes

Rules about which nodes a workflow needs and what may surround them: the parts of a debate, joins
where branches meet, what follows an approval, quorums, merges and conditions.
-/

namespace WorkflowRelease.Structure

/-- Types that every debate has. -/
def debateTypes : List String := ["context-builder", "debate-round", "judge-agent"]

/-- Types at which branches may meet. -/
def joinTypes : List String := ["join", "decision-merge"]

/-- The node can reach one of the nodes. -/
def reachesAny (g : Graph) (id : String) (targets : List Node) : Bool :=
  (g.reachable id).any fun r => targets.any (·.id = r)

/-- What `_check_debate_mode` finds. -/
def debateRoles (w : Workflow) (g : Graph) : List Issue :=
  if w.mode = some .debate then
    let missing := debateTypes.filter fun t => !g.nodes.any (·.type = t)
    let judges := g.ofTypes ["judge-agent"]
    (match missing with
      | [] => []
      | types => [Issue.broken .debateRoles
          ("DEBATE mode is missing required nodes: " ++ ", ".intercalate types)]) ++
    if judges.isEmpty then []
    else g.nodes.filterMap fun n =>
      if n.kind = .debateRound ∧ !reachesAny g n.id judges then
        some ((Issue.broken .debateRoles
          ("No judge node is reachable from debate round: " ++ n.name)).atNode n.id)
      else none
  else []

/-- What `_check_dag_convergence` finds. -/
def joinedBranches (w : Workflow) (g : Graph) : List Issue :=
  if w.mode = some .dag then
    g.nodes.filterMap fun n =>
      if 2 ≤ (Text.distinct (g.predecessors n.id)).length ∧ n.type ∉ joinTypes then
        some ((Issue.broken .joinedBranches
          ("Converging branches into " ++ n.name ++ " require a join node")).atNode n.id)
      else none
  else []

/-- The targets of an approval that are no output nodes. -/
def approvalTargets (outputTypes : List String) (g : Graph) (n : Node) : List Node :=
  ((g.successors n.id).filterMap g.node?).filter (·.type ∉ outputTypes)

/-- What `_check_approval_outputs` finds. -/
def approvalOutputs (outputTypes : List String) (g : Graph) : List Issue :=
  (g.nodes.filter (·.kind = .approval)).flatMap fun n =>
    (approvalTargets outputTypes g n).map fun target =>
      (Issue.broken .approvalOutputs ("Approval node " ++ n.name ++
        " may only lead to output nodes, found " ++ target.type)).atNode n.id

/-- A quorum is an integer of at least two. -/
def isQuorum : Json → Bool
  | .int n => 2 ≤ n
  | _ => false

/-- What `_check_join_quorum` finds. -/
def quorum (g : Graph) : List Issue :=
  g.nodes.filterMap fun n =>
    match n.kind with
    | .join policy branches =>
      if policy = some "QUORUM" ∧ !isQuorum branches then
        some ((Issue.broken .quorum
          "joinPolicy=QUORUM requires quorumBranches to be an integer >= 2").atNode n.id)
      else none
    | _ => none

/-- What `_check_decision_merge_fan_in` finds. -/
def mergeFanIn (g : Graph) : List Issue :=
  g.nodes.filterMap fun n =>
    if n.kind = .decisionMerge ∧ g.inDegree n.id < 2 then
      some ((Issue.broken .mergeFanIn ("decision-merge node " ++ n.name ++
        " needs at least 2 incoming edges, found " ++ toString (g.inDegree n.id))).atNode n.id)
    else none

/-- The entry is missing or counts as unset. -/
def lacks (o : Fields) (key : String) : Bool := ((o.get? key).getD .null).isFalsy

/-- What is wrong with the condition of an edge. -/
def conditionFault? (e : Edge) : Option String :=
  match e.condition with
  | none => some "requires a condition"
  | some .null => some "requires a condition"
  | some (.bool _) => none
  | some (.text s) => if Text.isBlankText s then some "has a blank condition" else none
  | some (.object o) =>
    if lacks o "field" ∨ lacks o "operator" then some "condition needs field and operator" else none
  | some _ => some "condition must be a boolean, string or object"

/-- What `_check_condition_edges` finds. -/
def conditions (w : Workflow) : List Issue :=
  (w.edges.filter (·.type = .condition)).filterMap fun e =>
    (conditionFault? e).map fun what =>
      (Issue.broken .conditions ("Condition edge " ++ e.id ++ " " ++ what)).atEdge e.id

end WorkflowRelease.Structure
