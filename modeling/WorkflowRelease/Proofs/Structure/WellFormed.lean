import WorkflowRelease.Proofs.Governance.Mentioned
import WorkflowRelease.Proofs.Structure.Sound

/-!
# Well-formed workflows

Four rules hold in every mode, on required fields, ids, the ends of edges and nodes without edges.
Each one finds nothing iff the workflow has what it is about, the last one of them among the nodes
that it sees, which are all where no id comes twice. Main statement: `unreported_iff_wellFormed`.
-/

namespace WorkflowRelease

open Structure.Sketch

/-- What every workflow should have, whatever its mode. -/
structure Workflow.WellFormed (w : Workflow) : Prop where
  workflowId : ∃ c ∈ w.workflowId.toList, Text.isBlank c = false
  name : ∃ c ∈ w.name.toList, Text.isBlank c = false
  mode : ∃ mode, w.mode = some mode
  nodes : w.nodes ≠ []
  edges : w.edges ≠ []
  nodeIds : (w.nodes.map (·.id)).Nodup
  edgeIds : (w.edges.map (·.id)).Nodup
  ends : ∀ e ∈ w.edges, (∃ n ∈ w.nodes, n.id = e.source) ∧ ∃ n ∈ w.nodes, n.id = e.target
  connected : ∀ n ∈ w.nodes, isTriggerType n.type = false →
    ∃ e ∈ w.edges, e.source = n.id ∨ e.target = n.id

theorem Node.kind_eq_trigger_iff {n : Node} : n.kind = .trigger ↔ isTriggerType n.type = true := by
  constructor
  · intro h
    unfold kind at h
    -- ten types are asked for before it, and two after it, and none of them gives a trigger
    iterate 10 rw [ite_eq_iff_of_ne (by nofun)] at h; replace h := h.2
    by_cases ht : isTriggerType n.type = true
    · exact ht
    · rw [if_neg ht, ite_eq_iff_of_ne (by nofun)] at h
      cases h.2
  · intro ht
    have hother : ∀ {type : String}, isTriggerType type = false → n.type ≠ type := by
      rintro _ hfalse rfl
      rw [ht] at hfalse
      cases hfalse
    have hothers : ∀ {types : List String}, (∀ t ∈ types, isTriggerType t = false) →
        n.type ∉ types :=
      fun hfalse hmem => hother (hfalse _ hmem) rfl
    unfold kind
    iterate 7 rw [if_neg (hother (by decide))]
    iterate 3 rw [if_neg (hothers (by decide))]
    rw [if_pos ht]

theorem Workflow.resolved_iff {w : Workflow} : w.Resolved ↔
    ∀ e ∈ w.edges, (∃ n ∈ w.nodes, n.id = e.source) ∧ ∃ n ∈ w.nodes, n.id = e.target := by
  simp only [Resolved, Graph.resolves_iff, Graph.mem_ids]

namespace Structure

variable {w : Workflow}

theorem requiredFields_eq_nil_iff : requiredFields w = [] ↔
    (∃ c ∈ w.workflowId.toList, Text.isBlank c = false) ∧
    (∃ c ∈ w.name.toList, Text.isBlank c = false) ∧ (∃ mode, w.mode = some mode) ∧
    w.nodes ≠ [] ∧ w.edges ≠ [] := by
  have hmissing : requiredFields w = [] ↔ missingFields w = [] := by
    unfold requiredFields
    split <;> simp_all
  rw [hmissing, ← Text.isBlankText_eq_false_iff, ← Text.isBlankText_eq_false_iff]
  simp [missingFields, Option.isSome_iff_exists]

theorem connected_eq_nil_iff {g : Graph} :
    connected g = [] ↔ ∀ n ∈ g.nodes, isTriggerType n.type = false →
      ∃ e ∈ g.edges, e.source = n.id ∨ e.target = n.id := by
  rw [connected, List.filterMap_eq_nil_iff]
  refine forall₂_congr fun n _ => ?_
  have hends : (∃ e ∈ g.edges, e.source = n.id ∨ e.target = n.id) ↔
      ¬(g.inDegree n.id = 0 ∧ g.outDegree n.id = 0) := by
    simp only [Graph.inDegree, Graph.outDegree, List.length_eq_zero_iff, List.filter_eq_nil_iff,
      decide_eq_true_eq]
    grind
  rw [ite_eq_right_iff, hends, ne_eq, Node.kind_eq_trigger_iff, Bool.not_eq_true]
  simp

/-- The rules that hold in every mode. -/
def generalRules : List Rule := [.requiredFields, .uniqueIds, .edgeEnds, .connected]

theorem found_generalRules_iff {outputTypes : List String} :
    (∀ rule ∈ generalRules, found outputTypes w rule = []) ↔ w.WellFormed := by
  simp only [generalRules, List.forall_mem_cons, found, requiredFields_eq_nil_iff,
    uniqueIds_eq_nil_iff, edgeEnds_eq_nil_iff, connected_eq_nil_iff, Workflow.resolved_iff]
  constructor
  · rintro ⟨⟨hid, hname, hmode, hnodes, hedges⟩, ⟨hn, he⟩, hends, hconnected, -⟩
    refine ⟨hid, hname, hmode, hnodes, hedges, hn, he, hends, ?_⟩
    simpa only [Graph.ofWorkflow, firstById_of_nodup hn] using hconnected
  · intro h
    refine ⟨⟨h.workflowId, h.name, h.mode, h.nodes, h.edges⟩, ⟨h.nodeIds, h.edgeIds⟩, h.ends, ?_,
      List.forall_mem_nil _⟩
    simpa only [Graph.ofWorkflow, firstById_of_nodup h.nodeIds] using h.connected

end Structure

/-- **Well-formed workflows.** For every verdict, at either stage, none of the four rules that hold
in every mode is reported iff the workflow is well-formed, and what is valid is well-formed. -/
theorem unreported_iff_wellFormed {outputTypes : List String} {w : Workflow} {stage : Stage}
    {verdict : Verdict} (h : Structure.validate outputTypes w stage = .ok verdict) :
    ((∀ code ∈ ["WF001", "WF002", "WF003", "WF004"], code ∉ verdict.codes) ↔ w.WellFormed) ∧
    (verdict.valid = true → w.WellFormed) := by
  refine ⟨?_, fun hvalid => Structure.found_generalRules_iff.1 fun rule _ =>
    Structure.found_eq_nil_of_valid h hvalid rule⟩
  have hcodes : ∀ rule ∈ Structure.generalRules,
      (rule.code ∉ verdict.codes ↔ Structure.found outputTypes w rule = []) := by
    intro rule hrule
    refine Structure.not_mem_codes_validate h rule ?_
    revert rule
    decide
  calc (∀ code ∈ ["WF001", "WF002", "WF003", "WF004"], code ∉ verdict.codes)
      ↔ ∀ rule ∈ Structure.generalRules, rule.code ∉ verdict.codes :=
        List.forall_mem_map (f := Rule.code) (l := Structure.generalRules)
    _ ↔ ∀ rule ∈ Structure.generalRules, Structure.found outputTypes w rule = [] :=
        forall₂_congr hcodes
    _ ↔ w.WellFormed := Structure.found_generalRules_iff

/-- A trigger on its own, and another one with two branches, which a linear workflow cannot have. -/
def forked : Workflow :=
  workflow .linear [node "s" "schedule-trigger", node "t" "trigger", node "a" "notify",
      node "b" "notify"]
    [edge "t" "a", edge "t" "b"]

theorem unreported_iff_wellFormed_forked : forked.WellFormed ∧
    ∃ verdict, Structure.validate [] forked .publish = .ok verdict ∧ verdict.valid = false := by
  have h : Structure.validate [] forked .publish = .ok _ := rfl
  exact ⟨(unreported_iff_wellFormed h).1.1 (by decide +kernel), _, h, by decide +kernel⟩

end WorkflowRelease
