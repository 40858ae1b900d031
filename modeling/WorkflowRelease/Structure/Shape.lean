import WorkflowRelease.Issue
import WorkflowRelease.Workflow.Topology

/-!
# Shape of the graph

Rules that hold in every mode: required fields, unique ids, edges between nodes, no node without an
edge. And the rules of the two modes that restrict edges alone: a linear workflow is one chain, and
a DAG has no cycle.
-/

namespace WorkflowRelease.Structure

/-- The names of required fields that are wanting. -/
def missingFields (w : Workflow) : List String :=
  [("workflowId", Text.isBlankText w.workflowId), ("name", Text.isBlankText w.name),
    ("mode", w.mode.isNone), ("nodes", w.nodes.isEmpty), ("edges", w.edges.isEmpty)].filterMap
    fun f => if f.2 then some f.1 else none

/-- What `_check_top_level_fields` finds. -/
def requiredFields (w : Workflow) : List Issue :=
  match missingFields w with
  | [] => []
  | names => [.broken .requiredFields
      ("Missing required workflow fields: " ++ ", ".intercalate names)]

/-- The ids that occurred before, once for each further occurrence. -/
def repeatedAfter (seen : List String) : List String → List String
  | [] => []
  | id :: ids =>
    if id ∈ seen then id :: repeatedAfter seen ids else repeatedAfter (id :: seen) ids

/-- What `_check_uniqueness` finds. -/
def uniqueIds (w : Workflow) : List Issue :=
  (repeatedAfter [] (w.nodes.map (·.id))).map (fun id =>
    (Issue.broken .uniqueIds ("Duplicate node id: " ++ id)).atNode id) ++
  (repeatedAfter [] (w.edges.map (·.id))).map (fun id =>
    (Issue.broken .uniqueIds ("Duplicate edge id: " ++ id)).atEdge id)

/-- The ends of an edge that are no nodes. -/
def looseEnds (g : Graph) (e : Edge) : List String :=
  [e.source, e.target].filter fun id => !g.has id

/-- What `_check_edge_references` finds. -/
def edgeEnds (w : Workflow) (g : Graph) : List Issue :=
  w.edges.filterMap fun e =>
    match looseEnds g e with
    | [] => none
    | ends => some ((Issue.broken .edgeEnds
        ("Edge " ++ e.id ++ " references non-existent node(s): " ++
          ", ".intercalate ends)).atEdge e.id)

/-- What `_check_dangling_nodes` finds. -/
def connected (g : Graph) : List Issue :=
  g.nodes.filterMap fun n =>
    if n.kind ≠ .trigger ∧ g.inDegree n.id = 0 ∧ g.outDegree n.id = 0 then
      some ((Issue.broken .connected
        ("Dangling node with no connecting edge: " ++ n.name)).atNode n.id)
    else none

/-- What is wrong with a node of a linear workflow that has these numbers of edges. -/
def chainIssues (n : Node) (incoming outgoing : Nat) : List Issue :=
  (if 1 < outgoing then
    [(Issue.broken .singleChain ("LINEAR mode does not allow branching: " ++ n.name ++ " has " ++
      toString outgoing ++ " outgoing edges")).atNode n.id]
  else []) ++
  if n.kind = .trigger then []
  else if 1 < incoming then
    [(Issue.broken .singleChain ("LINEAR mode does not allow converging: " ++ n.name ++ " has " ++
      toString incoming ++ " incoming edges")).atNode n.id]
  else if incoming = 0 ∧ 0 < outgoing then
    [(Issue.broken .singleChain ("LINEAR mode requires a single chain: " ++ n.name ++
      " has no incoming edge")).atNode n.id]
  else []

/-- What `_check_linear_mode` finds. -/
def singleChain (w : Workflow) (g : Graph) : List Issue :=
  if w.mode = some .linear then
    g.nodes.flatMap fun n => chainIssues n (g.inDegree n.id) (g.outDegree n.id)
  else []

/-- The nodes that no topological order holds, sorted. -/
def unordered (g : Graph) : List String :=
  let order := g.topologicalOrder
  Text.sorted (g.ids.filter fun id => !order.contains id)

/-- What `_check_dag_acyclic` finds. -/
def acyclic (w : Workflow) (g : Graph) : List Issue :=
  if w.mode = some .dag then
    match unordered g with
    | [] => []
    | id :: ids => [(Issue.broken .acyclic ("Cycle detected in DAG involving nodes: " ++
        ", ".intercalate (id :: ids))).atNode id]
  else []

end WorkflowRelease.Structure
