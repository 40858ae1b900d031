import WorkflowRelease.Proofs.Structure.Sound

/-!
# Cycles in a DAG

The rule on cycles puts the nodes of a DAG in order and reports those that are left out. It reports
something iff there is a cycle (`ordered_outside_cycles`). But what is left out is on a cycle or
behind one, and the report makes no difference between the two: `blamed_behind_cycles`, and
`behindCycle_blamed` for a node that is behind a cycle only.
-/

namespace WorkflowRelease

open Structure.Sketch

/-- A walk along edges between nodes leads from the node back to it. -/
def Workflow.OnCycle (w : Workflow) (id : String) : Prop := Relation.TransGen w.Connects id id

namespace Structure

variable {w : Workflow} {g : Graph}

theorem acyclic_eq_nil_iff (hmode : w.mode = some .dag) :
    acyclic w g = [] ↔ unordered g = [] := by
  rw [acyclic, if_pos hmode]
  cases unordered g <;> simp

/-- There is at most one issue, about all that is left out. -/
theorem eq_of_mem_acyclic {i : Issue} (h : i ∈ acyclic w g) :
    acyclic w g = [i] ∧ ∃ first others, unordered g = first :: others ∧
      i = (Issue.broken .acyclic ("Cycle detected in DAG involving nodes: " ++
        ", ".intercalate (first :: others))).atNode first := by
  unfold acyclic at h ⊢
  split at h
  · rename_i hmode
    rw [if_pos hmode]
    split at h
    · cases h
    · rename_i first others hleft
      obtain rfl := List.mem_singleton.1 h
      rw [hleft]
      exact ⟨rfl, first, others, rfl, rfl⟩
  · cases h

end Structure

namespace Workflow

variable {w : Workflow}

theorem mem_unordered_iff {id : String} : id ∈ Structure.unordered (Graph.ofWorkflow w) ↔
    ∃ u, w.OnCycle u ∧ Relation.ReflTransGen w.Connects u id := by
  rw [Graph.mem_unordered_iff (Graph.nodup_ids w), links_ofWorkflow]
  rfl

/-- All that is on a cycle or behind one is on a cycle iff no edge leads away from a cycle. -/
theorem onCycle_of_behind_iff :
    (∀ id, (∃ u, w.OnCycle u ∧ Relation.ReflTransGen w.Connects u id) → w.OnCycle id) ↔
      ∀ u v, w.OnCycle u → w.Connects u v → w.OnCycle v := by
  constructor
  · exact fun h u v hu hv => h v ⟨u, hu, .single hv⟩
  · rintro h id ⟨u, hu, hto⟩
    induction hto with
    | refl => exact hu
    | tail _ hl ih => exact h _ _ ih hl

end Workflow

/-- **A topological order** of the nodes outside the cycles. For every workflow, no node comes twice
in the order, those that are in it are neither on a cycle of edges between nodes nor behind one, and
every such edge leads forward. So in a DAG the rule on cycles is reported iff there is a cycle. -/
theorem ordered_outside_cycles (w : Workflow) :
    let order := (Graph.ofWorkflow w).topologicalOrder
    order.Nodup ∧
    (∀ id, id ∈ order ↔ (∃ n ∈ w.nodes, n.id = id) ∧
      ¬∃ u, w.OnCycle u ∧ Relation.ReflTransGen w.Connects u id) ∧
    (∀ u v, w.Connects u v → u ∈ order → v ∈ order → order.idxOf u < order.idxOf v) ∧
    ∀ outputTypes stage verdict, w.mode = some .dag →
      Structure.validate outputTypes w stage = .ok verdict →
        ("WF006" ∈ verdict.codes ↔ ∃ id, w.OnCycle id) := by
  intro order
  have hids := Graph.nodup_ids w
  refine ⟨Graph.nodup_topologicalOrder hids, fun id => ?_, fun u v hl _ hv => ?_, ?_⟩
  · rw [Graph.mem_topologicalOrder hids, Graph.mem_ids, w.links_ofWorkflow]
    rfl
  · rw [← w.links_ofWorkflow] at hl
    exact ((Graph.inOrder_topologicalOrder hids).idxOf_lt hl hv List.not_mem_nil).2
  · intro outputTypes stage verdict hmode h
    have hcodes : "WF006" ∈ verdict.codes ↔ Structure.acyclic w (Graph.ofWorkflow w) ≠ [] :=
      Structure.mem_codes_validate h .acyclic (by decide)
    rw [hcodes, ne_eq, Structure.acyclic_eq_nil_iff hmode, Graph.unordered_eq_nil_iff hids,
      w.links_ofWorkflow, not_forall_not]
    rfl

/-- A node that leads to itself, with a node before it, to which two edges lead, and another one
behind it. An id comes twice, and an edge leads nowhere. -/
def tangled : Workflow :=
  workflow .dag [node "t" "manual-trigger", node "a" "data-fetch", node "c" "join",
      node "b" "notify", node "a" "rule-eval"]
    [edge "t" "a", edge "t" "a", edge "a" "c", edge "c" "c", edge "c" "b", edge "b" "ghost"]

theorem ordered_outside_cycles_tangled :
    tangled.mode = some .dag ∧ (Graph.ofWorkflow tangled).topologicalOrder = ["t", "a"] ∧
      (∀ id, id ∈ ["t", "a"] ↔ (∃ n ∈ tangled.nodes, n.id = id) ∧
        ¬∃ u, tangled.OnCycle u ∧ Relation.ReflTransGen tangled.Connects u id) ∧
      ∃ verdict, Structure.validate [] tangled .save = .ok verdict ∧
        "WF006" ∈ verdict.codes ∧ ∃ id, tangled.OnCycle id := by
  have horder : (Graph.ofWorkflow tangled).topologicalOrder = ["t", "a"] := by decide +kernel
  obtain ⟨-, hmem, -, hreported⟩ := ordered_outside_cycles tangled
  rw [horder] at hmem
  have hverdict := Structure.validate_save [] tangled
  have hcode : "WF006" ∈ (Verdict.mk (Structure.saveIssues [] tangled)).codes := by decide +kernel
  exact ⟨rfl, horder, hmem, _, hverdict, hcode, (hreported _ _ _ rfl hverdict).1 hcode⟩

/-- **The nodes that are blamed for cycles** are those on a cycle and those behind one. In a verdict
on a DAG there is one issue about cycles at most. It lists them in order and is placed at the first
one, so that it blames only nodes on cycles iff no edge leads away from a cycle. -/
theorem blamed_behind_cycles {outputTypes : List String} {w : Workflow} {stage : Stage}
    {verdict : Verdict} (h : Structure.validate outputTypes w stage = .ok verdict) {i : Issue}
    (hi : i ∈ verdict.issues) (hcode : i.code = "WF006") :
    verdict.issues.filter (·.code = "WF006") = [i] ∧
    ∃ first others,
      i.message = "Cycle detected in DAG involving nodes: " ++
        ", ".intercalate (first :: others) ∧
      i.nodeId = some first ∧ (first :: others).Pairwise (· < ·) ∧
      (∀ id, id ∈ first :: others ↔
        ∃ u, w.OnCycle u ∧ Relation.ReflTransGen w.Connects u id) ∧
      ((∀ id ∈ first :: others, w.OnCycle id) ↔
        ∀ u v, w.OnCycle u → w.Connects u v → w.OnCycle v) := by
  have hfilter : verdict.issues.filter (·.code = "WF006") =
      Structure.acyclic w (Graph.ofWorkflow w) :=
    Structure.filter_validate h .acyclic (by decide)
  have hmem : i ∈ Structure.acyclic w (Graph.ofWorkflow w) := by
    rw [← hfilter]
    exact List.mem_filter.2 ⟨hi, decide_eq_true hcode⟩
  obtain ⟨hone, first, others, hleft, rfl⟩ := Structure.eq_of_mem_acyclic hmem
  have hblamed : ∀ id, id ∈ first :: others ↔
      ∃ u, w.OnCycle u ∧ Relation.ReflTransGen w.Connects u id := by
    intro id
    rw [← hleft]
    exact Workflow.mem_unordered_iff
  refine ⟨hfilter.trans hone, first, others, rfl, rfl, ?_, hblamed, ?_⟩
  · rw [← hleft]
    exact Text.pairwise_sorted _
  · simp only [hblamed]
    exact Workflow.onCycle_of_behind_iff

/-- Two nodes that lead to each other, and one behind them that leads nowhere. -/
def behindCycle : Workflow :=
  workflow .dag [node "t" "manual-trigger", node "b" "join", node "c" "data-fetch",
      node "a" "notify"]
    [edge "t" "b", edge "b" "c", edge "c" "b", edge "c" "a"]

/-- What is found in it. -/
def behindCycleIssue : Issue :=
  (Issue.broken .acyclic "Cycle detected in DAG involving nodes: a, b, c").atNode "a"

theorem blamed_behind_cycles_of_two :
    Structure.validate outputTypes behindCycle .save = .ok ⟨[behindCycleIssue]⟩ ∧
      ∃ u, behindCycle.OnCycle u ∧ Relation.ReflTransGen behindCycle.Connects u "a" := by
  have hvalid : Structure.validate outputTypes behindCycle .save = .ok ⟨[behindCycleIssue]⟩ := by
    decide +kernel
  obtain ⟨-, first, others, -, hfirst, -, hblamed, -⟩ :=
    blamed_behind_cycles hvalid (List.mem_singleton_self _) rfl
  obtain rfl : first = "a" := (Option.some.inj hfirst).symm
  exact ⟨hvalid, (hblamed "a").1 List.mem_cons_self⟩

/-- A node may be blamed, and be the place of the issue, although it is on no cycle. -/
theorem behindCycle_blamed :
    behindCycle.mode = some .dag ∧
      Structure.validate outputTypes behindCycle .save = .ok ⟨[behindCycleIssue]⟩ ∧
      behindCycleIssue.code = "WF006" ∧ behindCycleIssue.nodeId = some "a" ∧ ¬behindCycle.OnCycle "a" := by
  refine ⟨rfl, by decide +kernel, rfl, rfl, fun h => ?_⟩
  obtain ⟨v, ⟨⟨e, he, hsource, -⟩, -⟩, -⟩ := Relation.TransGen.head'_iff.1 h
  have hnone : ∀ e ∈ behindCycle.edges, e.source ≠ "a" := by decide +kernel
  exact hnone e he hsource

end WorkflowRelease
