import WorkflowRelease.Workflow.Graph

/-!
# Reachability and topological order

Breadth first search along resolved edges (`reachable_from`), and the order in which nodes become
free when nodes without open predecessors are taken out again and again (`topological_order`). The
search ends because every step shrinks the nodes not yet seen or, those being the same, its queue;
the ordering ends because every step shrinks the open predecessors and the queue taken together.
-/

namespace WorkflowRelease.Graph

/-! ## Reachability -/

/-- The nodes that the search finds: `queue` is still to look at, `unseen` has not been found. -/
def visit (g : Graph) (unseen : List String) : List String → List String
  | [] => []
  | id :: queue =>
    if _h : id ∈ unseen then id :: visit g (unseen.erase id) (queue ++ g.successors id)
    else visit g unseen queue
termination_by queue => (unseen.length, queue.length)
decreasing_by
  · have hpos := List.length_pos_of_mem _h
    have := List.length_erase_of_mem _h
    exact Prod.Lex.left _ _ (by omega)
  · exact Prod.Lex.right _ (by simp)

/-- The nodes at the end of a path of one or more resolved edges, in the order found. -/
def reachable (g : Graph) (start : String) : List String := g.visit g.ids (g.successors start)

/-! ## Topological order -/

/-- Numbers of open predecessors of the nodes that are not free yet. -/
abbrev Waiting := List (String × Nat)

/-- Closes one predecessor of a node: the rest, and whether the node is free now. -/
def close (id : String) : Waiting → Waiting × Bool
  | [] => ([], false)
  | (k, n) :: rest =>
    if k = id then if n ≤ 1 then (rest, true) else ((k, n - 1) :: rest, false)
    else ((k, n) :: (close id rest).1, (close id rest).2)

/-- Closes one predecessor of each of the nodes, and collects those that become free. -/
def closeAll : List String → Waiting → Waiting × List String
  | [], waiting => (waiting, [])
  | id :: ids, waiting =>
    let rest := closeAll ids (close id waiting).1
    (rest.1, if (close id waiting).2 then id :: rest.2 else rest.2)

/-- One for every waiting node and one for every open predecessor. -/
def weight : Waiting → Nat
  | [] => 0
  | (_, n) :: rest => n + 1 + weight rest

theorem weight_close (id : String) (waiting : Waiting) :
    weight (close id waiting).1 + (if (close id waiting).2 then 1 else 0) ≤ weight waiting := by
  induction waiting with
  | nil => simp [close, weight]
  | cons e rest ih =>
    obtain ⟨k, n⟩ := e
    rw [close]
    split
    · split <;> simp only [weight, Bool.false_eq_true, if_true, if_false] <;> omega
    · simp only [weight]
      omega

theorem weight_closeAll (ids : List String) (waiting : Waiting) :
    weight (closeAll ids waiting).1 + (closeAll ids waiting).2.length ≤ weight waiting := by
  induction ids generalizing waiting with
  | nil => simp [closeAll]
  | cons id ids ih =>
    have h1 := weight_close id waiting
    have h2 := ih (close id waiting).1
    cases hc : (close id waiting).2 <;> simp [closeAll, hc] at h1 ⊢ <;> omega

/-- Takes free nodes out, first come first served. -/
def release (g : Graph) (waiting : Waiting) : List String → List String
  | [] => []
  | id :: queue =>
    id :: release g (closeAll (g.successors id) waiting).1
      (queue ++ (closeAll (g.successors id) waiting).2)
termination_by queue => weight waiting + queue.length
decreasing_by
  have := weight_closeAll (g.successors id) waiting
  simp
  omega

/-- Nodes with every source before its targets; nodes on a cycle or behind one are left out. -/
def topologicalOrder (g : Graph) : List String :=
  let degrees := g.ids.map fun id => (id, (g.predecessors id).length)
  g.release (degrees.filter (·.2 ≠ 0)) ((degrees.filter (·.2 = 0)).map (·.1))

end WorkflowRelease.Graph
