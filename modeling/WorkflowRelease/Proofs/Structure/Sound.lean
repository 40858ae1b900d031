import WorkflowRelease.Proofs.Graph.Order
import WorkflowRelease.Proofs.Structure.Breaches

/-!
# Workflows that are found sound

All that the rules for saving find are errors, so each of them has found nothing where a verdict is
valid (`found_eq_nil_of_valid`). Where the rules on the shape find nothing (`WellShaped`), ids are
not repeated and edges lead from node to node. A linear workflow then has no node with too many
edges or too few, and a DAG has no cycle and no join but at nodes that join.
-/

namespace WorkflowRelease

namespace Structure

/-- All the issues are errors. -/
def OnlyErrors (issues : List Issue) : Prop := ∀ i ∈ issues, i.isError = true

@[simp] theorem onlyErrors_nil : OnlyErrors [] := by simp [OnlyErrors]

@[simp] theorem onlyErrors_cons {i : Issue} {issues : List Issue} :
    OnlyErrors (i :: issues) ↔ i.isError = true ∧ OnlyErrors issues := by
  simp [OnlyErrors]

@[simp] theorem onlyErrors_append {issues issues' : List Issue} :
    OnlyErrors (issues ++ issues') ↔ OnlyErrors issues ∧ OnlyErrors issues' := by
  simp [OnlyErrors, or_imp, forall_and]

theorem onlyErrors_map {α : Type} {f : α → Issue} {as : List α}
    (h : ∀ a ∈ as, (f a).isError = true) : OnlyErrors (as.map f) := by
  simpa [OnlyErrors] using h

theorem Breaches.onlyErrors {rule : Rule} {issues : List Issue} (h : Breaches rule issues) :
    OnlyErrors issues :=
  fun i hi => (h i hi).2

end Structure

/-- A valid verdict holds no errors of any check. -/
theorem Verdict.eq_nil_of_valid {v : Verdict} {issues : List Issue} (hvalid : v.valid = true)
    (hsub : issues ⊆ v.issues) (herrors : Structure.OnlyErrors issues) : issues = [] := by
  rw [List.eq_nil_iff_forall_not_mem]
  intro i hi
  have hfine := List.all_eq_true.1 hvalid i (hsub hi)
  simp [herrors i hi] at hfine

namespace Structure

section Verdict

variable (w : Workflow) {outputTypes : List String} {stage : Stage} {verdict : Verdict}

theorem onlyErrors_saveIssues (outputTypes : List String) :
    OnlyErrors (saveIssues outputTypes w) := by
  simp only [saveIssues, onlyErrors_append, (breaches_requiredFields w).onlyErrors,
    (breaches_uniqueIds w).onlyErrors, (breaches_edgeEnds w _).onlyErrors,
    (breaches_connected _).onlyErrors, (breaches_singleChain w _).onlyErrors,
    (breaches_acyclic w _).onlyErrors, (breaches_debateRoles w _).onlyErrors,
    (breaches_joinedBranches w _).onlyErrors, (breaches_approvalOutputs _ _).onlyErrors,
    (breaches_quorum _).onlyErrors, (breaches_fieldTypes w _).onlyErrors,
    (breaches_bindingSources _).onlyErrors, (breaches_parameters w).onlyErrors,
    (breaches_mergeFanIn _).onlyErrors, (breaches_conditions w).onlyErrors, and_self]

/-- What the rules for saving find is in the verdict of either stage. -/
theorem saveIssues_subset (h : validate outputTypes w stage = .ok verdict) :
    saveIssues outputTypes w ⊆ verdict.issues := by
  cases stage with
  | save =>
    rw [validate_save, Except.ok.injEq] at h
    subst h
    exact List.Subset.refl _
  | publish =>
    obtain ⟨further, -, hissues⟩ := issues_validate_publish h
    rw [hissues]
    exact List.subset_append_left _ _

/-- What is valid at either stage is so for saving. -/
theorem saveIssues_eq_nil_of_valid (h : validate outputTypes w stage = .ok verdict)
    (hvalid : verdict.valid = true) : saveIssues outputTypes w = [] :=
  verdict.eq_nil_of_valid hvalid (saveIssues_subset w h) (onlyErrors_saveIssues w outputTypes)

/-- **Where a verdict is valid** each rule for saving has found nothing, at either stage. -/
theorem found_eq_nil_of_valid {w : Workflow} (h : validate outputTypes w stage = .ok verdict)
    (hvalid : verdict.valid = true) (rule : Rule) : found outputTypes w rule = [] := by
  rw [← filter_saveIssues, saveIssues_eq_nil_of_valid w h hvalid, List.filter_nil]

theorem valid_save_iff (h : validate outputTypes w .save = .ok verdict) :
    verdict.valid = true ↔ saveIssues outputTypes w = [] := by
  refine ⟨saveIssues_eq_nil_of_valid w h, fun hnil => ?_⟩
  rw [validate_save, Except.ok.injEq, hnil] at h
  subst h
  rfl

end Verdict

/-! ## The shape of accepted workflows -/

/-- The rules on the shape of the graph find nothing. -/
structure WellShaped (w : Workflow) : Prop where
  uniqueIds : uniqueIds w = []
  edgeEnds : edgeEnds w (Graph.ofWorkflow w) = []
  connected : connected (Graph.ofWorkflow w) = []
  singleChain : singleChain w (Graph.ofWorkflow w) = []
  acyclic : acyclic w (Graph.ofWorkflow w) = []
  joinedBranches : joinedBranches w (Graph.ofWorkflow w) = []

variable {w : Workflow}

theorem wellShaped_of_valid {outputTypes : List String} {stage : Stage} {verdict : Verdict}
    (h : validate outputTypes w stage = .ok verdict) (hvalid : verdict.valid = true) :
    WellShaped w where
  uniqueIds := found_eq_nil_of_valid h hvalid .uniqueIds
  edgeEnds := found_eq_nil_of_valid h hvalid .edgeEnds
  connected := found_eq_nil_of_valid h hvalid .connected
  singleChain := found_eq_nil_of_valid h hvalid .singleChain
  acyclic := found_eq_nil_of_valid h hvalid .acyclic
  joinedBranches := found_eq_nil_of_valid h hvalid .joinedBranches

/-- Nothing is repeated iff what is listed is new each time. -/
theorem repeatedAfter_eq_nil_iff {seen ids : List String} :
    repeatedAfter seen ids = [] ↔ ids.Nodup ∧ ∀ id ∈ ids, id ∉ seen := by
  induction ids generalizing seen with
  | nil => simp [repeatedAfter]
  | cons id ids ih =>
    rw [repeatedAfter, List.nodup_cons, List.forall_mem_cons]
    by_cases hid : id ∈ seen
    · simp [hid]
    · rw [if_neg hid, ih]
      constructor
      · rintro ⟨hnodup, hnew⟩
        exact ⟨⟨fun hmem => hnew id hmem List.mem_cons_self, hnodup⟩, hid,
          fun k hk hseen => hnew k hk (List.mem_cons_of_mem _ hseen)⟩
      · rintro ⟨⟨hfirst, hnodup⟩, -, hnew⟩
        refine ⟨hnodup, fun k hk hseen => ?_⟩
        rcases List.mem_cons.1 hseen with rfl | hseen
        · exact hfirst hk
        · exact hnew k hk hseen

theorem uniqueIds_eq_nil_iff :
    uniqueIds w = [] ↔ (w.nodes.map (·.id)).Nodup ∧ (w.edges.map (·.id)).Nodup := by
  simp [uniqueIds, repeatedAfter_eq_nil_iff]

theorem firstById_of_nodup {ns : List Node} (h : (ns.map (·.id)).Nodup) : firstById ns = ns := by
  induction ns with
  | nil => rfl
  | cons n ns ih =>
    obtain ⟨hn, hrest⟩ := List.nodup_cons.1 h
    rw [firstById, ih hrest, List.filter_eq_self.2]
    intro m hm
    have hne : m.id ≠ n.id := fun heq => hn (List.mem_map.2 ⟨m, hm, heq⟩)
    simpa using hne

theorem WellShaped.nodup_ids (h : WellShaped w) : (w.nodes.map (·.id)).Nodup :=
  (uniqueIds_eq_nil_iff.1 h.uniqueIds).1

theorem WellShaped.nodes_eq (h : WellShaped w) : (Graph.ofWorkflow w).nodes = w.nodes :=
  firstById_of_nodup h.nodup_ids

theorem edgeEnds_eq_nil_iff : edgeEnds w (Graph.ofWorkflow w) = [] ↔ w.Resolved := by
  rw [edgeEnds, List.filterMap_eq_nil_iff]
  refine forall₂_congr fun e _ => ?_
  have hloose : looseEnds (Graph.ofWorkflow w) e = [] ↔
      (Graph.ofWorkflow w).resolves e = true := by
    simp [looseEnds, Graph.resolves]
  rw [← hloose]
  split <;> simp_all

theorem WellShaped.resolved (h : WellShaped w) : w.Resolved := edgeEnds_eq_nil_iff.1 h.edgeEnds

theorem WellShaped.links_eq (h : WellShaped w) : (Graph.ofWorkflow w).Links = w.Links := by
  funext u v
  exact propext h.resolved.links_iff

/-- In a linear workflow a node has one edge to it unless it is a trigger, and at most one from
it. -/
theorem WellShaped.degrees (h : WellShaped w) (hmode : w.mode = some .linear) {n : Node}
    (hn : n ∈ w.nodes) :
    (Graph.ofWorkflow w).outDegree n.id ≤ 1 ∧
      (n.kind ≠ .trigger → (Graph.ofWorkflow w).inDegree n.id = 1) := by
  rw [← h.nodes_eq] at hn
  have hchain := h.singleChain
  rw [Structure.singleChain, if_pos hmode] at hchain
  have hat := List.flatMap_eq_nil_iff.1 hchain n hn
  have hends := List.filterMap_eq_nil_iff.1 h.connected n hn
  rw [chainIssues, List.append_eq_nil_iff] at hat
  grind

theorem WellShaped.not_reaches_self (h : WellShaped w) (hmode : w.mode = some .dag) (id : String) :
    ¬w.Reaches id id := by
  have hordered := h.acyclic
  rw [Structure.acyclic, if_pos hmode] at hordered
  split at hordered
  · rename_i hnil
    rw [Graph.unordered_eq_nil_iff (Graph.nodup_ids w), h.links_eq] at hnil
    exact hnil id
  · cases hordered

/-- In a DAG a node with two predecessors is one that joins. -/
theorem WellShaped.mem_joinTypes (h : WellShaped w) (hmode : w.mode = some .dag) {n : Node}
    (hn : n ∈ w.nodes) {x y : String} (hne : x ≠ y) (hx : w.Links x n.id) (hy : w.Links y n.id) :
    n.type ∈ joinTypes := by
  rw [← h.nodes_eq] at hn
  rw [← h.links_eq] at hx hy
  have htwo : 2 ≤ (Text.distinct ((Graph.ofWorkflow w).predecessors n.id)).length := by
    have hsub : [x, y] ⊆ Text.distinct ((Graph.ofWorkflow w).predecessors n.id) := by
      simpa using ⟨hx, hy⟩
    exact (List.subperm_of_subset (by simpa using hne) hsub).length_le
  have hjoined := h.joinedBranches
  rw [Structure.joinedBranches, if_pos hmode] at hjoined
  have hat := List.filterMap_eq_nil_iff.1 hjoined n hn
  by_contra htype
  rw [if_pos ⟨htwo, htype⟩] at hat
  cases hat

/-! ## Sketches -/

namespace Sketch

def node (id type : String) : Node := { id, type, name := id }

def edge (source target : String) : Edge := { id := source ++ "-" ++ target, source, target }

/-- A workflow of which only the shape matters. -/
def workflow (mode : Mode) (nodes : List Node) (edges : List Edge) : Workflow :=
  { workflowId := "wf-sketch", name := "Sketch", mode := some mode, nodes, edges }

end Sketch

end Structure

end WorkflowRelease
