import WorkflowRelease.Proofs.Structure.Debate
import WorkflowRelease.Proofs.Structure.Reordered

/-!
# What comes after an approval

The rule on approvals looks at the nodes that an approval leads to directly, and asks for output
nodes (`approvalOutputs_eq_nil_iff`). What comes further behind it is only behind output nodes, and
nothing keeps an output node from leading on. Main statement: `outputs_after_approval`;
`resumed_valid` is a workflow that goes on behind the output of an approval.
-/

namespace WorkflowRelease

open Structure.Sketch

theorem Node.kind_eq_approval_iff {n : Node} : n.kind = .approval ↔ n.type = "approval" := by
  constructor
  · intro h
    unfold kind at h
    by_cases ht : n.type = "approval"
    · exact ht
    · rw [if_neg ht] at h
      -- none of the types that are asked for after it gives an approval
      iterate 11 rw [ite_eq_iff_of_ne (by nofun)] at h; replace h := h.2
      cases h
  · intro ht
    rw [kind, if_pos ht]

namespace Structure

variable {g : Graph} {outputTypes : List String}

theorem mem_approvalTargets (hn : g.ids.Nodup) {a m : Node} :
    m ∈ approvalTargets outputTypes g a ↔
      m ∈ g.nodes ∧ g.Links a.id m.id ∧ m.type ∉ outputTypes := by
  simp only [approvalTargets, List.mem_filter, List.mem_filterMap, Graph.mem_successors,
    Graph.node?_eq_some_iff hn, decide_eq_true_eq]
  constructor
  · rintro ⟨⟨_, hl, hm, rfl⟩, ht⟩
    exact ⟨hm, hl, ht⟩
  · rintro ⟨hm, hl, ht⟩
    exact ⟨⟨m.id, hl, hm, rfl⟩, ht⟩

/-- The rule finds nothing iff approvals lead to output nodes only. -/
theorem approvalOutputs_eq_nil_iff (hn : g.ids.Nodup) :
    approvalOutputs outputTypes g = [] ↔ ∀ a ∈ g.nodes, a.type = "approval" →
      ∀ m ∈ g.nodes, g.Links a.id m.id → m.type ∈ outputTypes := by
  have htargets (a : Node) : approvalTargets outputTypes g a = [] ↔
      ∀ m ∈ g.nodes, g.Links a.id m.id → m.type ∈ outputTypes := by
    simp only [List.eq_nil_iff_forall_not_mem, mem_approvalTargets hn, not_and, not_not]
  simp only [approvalOutputs, List.flatMap_eq_nil_iff, List.map_eq_nil_iff, htargets,
    List.mem_filter, decide_eq_true_eq, Node.kind_eq_approval_iff, and_imp]

end Structure

namespace Workflow

variable {w : Workflow}

/-- All nodes that one node reaches have a property that those it leads to have, iff the property
is handed on along edges from there. -/
theorem forall_reached_iff (hw : w.Resolved) {p : Node → Prop} {a : Node}
    (hfirst : ∀ m ∈ w.nodes, w.Links a.id m.id → p m) :
    (∀ m ∈ w.nodes, w.Reaches a.id m.id → p m) ↔
      ∀ n ∈ w.nodes, w.Reaches a.id n.id → p n → ∀ m ∈ w.nodes, w.Links n.id m.id → p m := by
  constructor
  · intro hall n _ hreach _ m hm hl
    exact hall m hm (hreach.tail hl)
  · intro hnext
    -- by induction on the walk, for all nodes with the id at its end
    suffices h : ∀ id, w.Reaches a.id id → ∀ m ∈ w.nodes, m.id = id → p m from
      fun m hm hreach => h m.id hreach m hm rfl
    intro id hreach
    induction hreach with
    | single hl =>
      rintro m hm rfl
      exact hfirst m hm hl
    | tail hwalk hl ih =>
      rintro m hm rfl
      obtain ⟨n, hn, rfl⟩ := Graph.mem_ids.1 (hw.mem_ids hl).1
      exact hnext n hn hwalk (ih n hn rfl) m hm hl

end Workflow

/-- **After an approval.** The rule on approvals is not reported iff those that count lead to output
nodes only. In a valid workflow all nodes behind an approval are output nodes iff none of the output
nodes behind it leads to a node that is none. -/
theorem outputs_after_approval {outputTypes : List String} {w : Workflow} {stage : Stage}
    {verdict : Verdict} (h : Structure.validate outputTypes w stage = .ok verdict) :
    ("WF103" ∉ verdict.codes ↔ ∀ a, w.Counts a → a.type = "approval" →
      ∀ m, w.Counts m → w.Connects a.id m.id → m.type ∈ outputTypes) ∧
    (verdict.valid = true → ∀ a ∈ w.nodes, a.type = "approval" →
      ((∀ m ∈ w.nodes, w.Reaches a.id m.id → m.type ∈ outputTypes) ↔
        ∀ n ∈ w.nodes, w.Reaches a.id n.id → n.type ∈ outputTypes →
          ∀ m ∈ w.nodes, w.Links n.id m.id → m.type ∈ outputTypes)) := by
  have hiff : Structure.approvalOutputs outputTypes (Graph.ofWorkflow w) = [] ↔ _ :=
    Structure.approvalOutputs_eq_nil_iff (Graph.nodup_ids w)
  constructor
  · have hcodes : "WF103" ∉ verdict.codes ↔
        Structure.approvalOutputs outputTypes (Graph.ofWorkflow w) = [] :=
      Structure.not_mem_codes_validate h .approvalOutputs (by decide)
    rw [hcodes, hiff, w.links_ofWorkflow]
    simp only [Workflow.mem_nodes_ofWorkflow]
  · intro hvalid a ha htype
    have hshape := Structure.wellShaped_of_valid h hvalid
    rw [hshape.nodes_eq, hshape.links_eq] at hiff
    exact Workflow.forall_reached_iff hshape.resolved
      (hiff.1 (Structure.found_eq_nil_of_valid h hvalid .approvalOutputs) a ha htype)

/-- An approval leads to two outputs, and one of them to a third one. -/
def announced : Workflow :=
  workflow .dag [node "t" "manual-trigger", node "ok" "approval", node "n" "notify",
      node "a" "archive", node "r" "report-generate"]
    [edge "t" "ok", edge "ok" "n", edge "ok" "a", edge "n" "r"]

theorem outputs_after_approval_announced :
    Structure.validate ("archive" :: outputTypes) announced .save = .ok ⟨[]⟩ ∧
      announced.Reaches "ok" "r" ∧
      ∀ m ∈ announced.nodes, announced.Reaches "ok" m.id → m.type ∈ "archive" :: outputTypes := by
  have hvalid : Structure.validate ("archive" :: outputTypes) announced .save = .ok ⟨[]⟩ := by
    decide +kernel
  have hleads : ∀ n ∈ announced.nodes, n.type ∈ "archive" :: outputTypes →
      ∀ m ∈ announced.nodes, announced.Links n.id m.id → m.type ∈ "archive" :: outputTypes := by
    decide +kernel
  refine ⟨hvalid, .tail (.single (b := "n") (by decide +kernel)) (by decide +kernel), ?_⟩
  exact ((outputs_after_approval hvalid).2 rfl (node "ok" "approval") (by decide +kernel) rfl).2
    fun n hn _ => hleads n hn

/-- An approval leads to an output, and that one to a rule. -/
def resumed : Workflow :=
  workflow .linear [node "t" "manual-trigger", node "ok" "approval", node "n" "notify",
      node "r" "rule-eval"]
    [edge "t" "ok", edge "ok" "n", edge "n" "r"]

/-- Behind its output, business goes on after an approval, which the rule does not see. -/
theorem resumed_valid :
    Structure.validate outputTypes resumed .save = .ok ⟨[]⟩ ∧
      (∃ a ∈ resumed.nodes, a.id = "ok" ∧ a.type = "approval") ∧ resumed.Reaches "ok" "r" ∧
      ∃ m ∈ resumed.nodes, m.id = "r" ∧ m.type ∉ outputTypes :=
  ⟨by decide +kernel, by decide +kernel,
    .tail (.single (b := "n") (by decide +kernel)) (by decide +kernel), by decide +kernel⟩

end WorkflowRelease
