import WorkflowRelease.Workflow.NodeKind

/-!
# The graph of a workflow

The nodes of a workflow without repeated ids, and its edges (`WorkflowGraph`). An edge is resolved
when both its ends are nodes; successors and predecessors follow resolved edges, while degrees count
every edge at a node. Main statements: `nodup_ids`, and `count_successors`, `u` has `v` as successor
as often as there are edges from `u` to `v`, which is how often `v` has `u` as predecessor.
-/

namespace WorkflowRelease

/-- The first node of every id, in order. -/
def firstById : List Node → List Node
  | [] => []
  | n :: ns => n :: (firstById ns).filter (·.id ≠ n.id)

structure Graph where
  nodes : List Node
  edges : List Edge

namespace Graph

/-- The graph of a workflow. -/
def ofWorkflow (w : Workflow) : Graph := ⟨firstById w.nodes, w.edges⟩

/-- The ids of the nodes, in order. -/
def ids (g : Graph) : List String := g.nodes.map (·.id)

def node? (g : Graph) (id : String) : Option Node := g.nodes.find? (·.id = id)

def has (g : Graph) (id : String) : Bool := g.ids.contains id

/-- Both ends of the edge are nodes. -/
def resolves (g : Graph) (e : Edge) : Bool := g.has e.source && g.has e.target

/-- Targets of the resolved edges from a node, one for each edge. -/
def successors (g : Graph) (id : String) : List String :=
  (g.edges.filter fun e => e.source = id && g.resolves e).map (·.target)

/-- Sources of the resolved edges to a node, one for each edge. -/
def predecessors (g : Graph) (id : String) : List String :=
  (g.edges.filter fun e => e.target = id && g.resolves e).map (·.source)

/-- The number of edges to a node, resolved or not. -/
def inDegree (g : Graph) (id : String) : Nat := (g.edges.filter (·.target = id)).length

/-- The number of edges from a node, resolved or not. -/
def outDegree (g : Graph) (id : String) : Nat := (g.edges.filter (·.source = id)).length

/-- Nodes with one of the types. -/
def ofTypes (g : Graph) (types : List String) : List Node := g.nodes.filter (·.type ∈ types)

end Graph

theorem mem_firstById {n : Node} {ns : List Node} (h : n ∈ firstById ns) : n ∈ ns := by
  induction ns with
  | nil => exact h
  | cons m ms ih =>
    rcases List.mem_cons.1 h with rfl | h
    · simp
    · exact List.mem_cons_of_mem _ (ih (List.mem_filter.1 h).1)

/-- The nodes that are kept are the first ones with their ids. -/
theorem mem_firstById_iff {n : Node} {ns : List Node} :
    n ∈ firstById ns ↔ ns.find? (·.id = n.id) = some n := by
  induction ns with
  | nil => simp [firstById]
  | cons m ms ih =>
    rw [firstById, List.mem_cons, List.mem_filter, ih, List.find?_cons, decide_eq_true_eq]
    by_cases hid : m.id = n.id
    · simp [hid, eq_comm]
    · have hne : n ≠ m := fun h => hid (h ▸ rfl)
      simp [hid, hne, Ne.symm hid]

theorem nodup_firstById (ns : List Node) : ((firstById ns).map (·.id)).Nodup := by
  induction ns with
  | nil => exact List.nodup_nil
  | cons n ns ih =>
    refine List.nodup_cons.2 ⟨by simp, ?_⟩
    exact ih.sublist (List.filter_sublist.map _)

theorem ids_firstById (ns : List Node) :
    (firstById ns).map (·.id) = Text.distinct (ns.map (·.id)) := by
  induction ns with
  | nil => rfl
  | cons n ns ih =>
    simp only [firstById, List.map_cons, Text.distinct, ← ih, List.filter_map]
    rfl

namespace Graph

theorem nodup_ids (w : Workflow) : (ofWorkflow w).ids.Nodup := nodup_firstById w.nodes

theorem mem_ids {w : Workflow} {id : String} :
    id ∈ (ofWorkflow w).ids ↔ ∃ n ∈ w.nodes, n.id = id := by
  simp [ids, ofWorkflow, ids_firstById]

theorem exists_node?_of_mem {g : Graph} {id : String} (h : id ∈ g.ids) :
    ∃ n, g.node? id = some n ∧ n.id = id := by
  obtain ⟨m, hm, hid⟩ := List.mem_map.1 h
  have hsome : (g.node? id).isSome = true := List.find?_isSome.2 ⟨m, hm, decide_eq_true hid⟩
  obtain ⟨n, hn⟩ := Option.isSome_iff_exists.1 hsome
  exact ⟨n, hn, by simpa using List.find?_some hn⟩

theorem resolves_iff {g : Graph} {e : Edge} :
    g.resolves e = true ↔ e.source ∈ g.ids ∧ e.target ∈ g.ids := by
  simp [resolves, has]

theorem count_successors (g : Graph) (u v : String) :
    (g.successors u).count v = (g.predecessors v).count u := by
  unfold successors predecessors
  induction g.edges with
  | nil => rfl
  | cons e es ih =>
    by_cases hr : g.resolves e = true <;> by_cases hs : e.source = u <;>
      by_cases ht : e.target = v <;> simp_all

theorem mem_ids_of_mem_successors {g : Graph} {u v : String} (h : v ∈ g.successors u) :
    u ∈ g.ids ∧ v ∈ g.ids := by
  simp only [successors, List.mem_map, List.mem_filter, Bool.and_eq_true, decide_eq_true_eq,
    resolves_iff] at h
  obtain ⟨e, ⟨_, hs, hsrc, htgt⟩, ht⟩ := h
  exact ⟨hs ▸ hsrc, ht ▸ htgt⟩

end Graph

end WorkflowRelease
