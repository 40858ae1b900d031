import Mathlib.Data.Multiset.Defs
import WorkflowRelease.Proofs.Governance.Joined
import WorkflowRelease.Proofs.Graph.Convergence
import WorkflowRelease.Proofs.Graph.Reachable

/-!
# Reordered workflows

The nodes and the edges of a workflow may be listed in any order. With ids that come once, the graph
has the same nodes, edges and degrees by id, and what is searched for along its edges does not
depend on the order of the search (`Graph.Reorders`). So each rule finds the same defects, in
another order. With an id that comes twice it matters which node comes first, but then no verdict is
valid. Main statement: `validate_of_perm`.
-/

namespace WorkflowRelease

theorem perm_filterMap {α β : Type} {f' f : α → Option β} {l' l : List α} (h : l'.Perm l)
    (hf : ∀ a, f' a = f a) : (l'.filterMap f').Perm (l.filterMap f) := by
  rw [funext hf]
  exact h.filterMap f

theorem Text.length_distinct_of_perm {l' l : List String} (h : l'.Perm l) :
    (distinct l').length = (distinct l).length := by
  have hperm : (distinct l').Perm (distinct l) := by
    rw [List.perm_ext_iff_of_nodup (nodup_distinct l') (nodup_distinct l)]
    intro t
    rw [mem_distinct, mem_distinct, h.mem_iff]
  exact hperm.length_eq

/-! ## Graphs -/

namespace Graph

/-- A graph has the nodes and the edges of another one in some order. The ids of nodes come once. -/
structure Reorders (g' g : Graph) : Prop where
  nodes : g'.nodes.Perm g.nodes
  edges : g'.edges.Perm g.edges
  nodup : g.ids.Nodup

theorem node?_eq_some_iff {g : Graph} (hn : g.ids.Nodup) {id : String} {n : Node} :
    g.node? id = some n ↔ n ∈ g.nodes ∧ n.id = id := by
  constructor
  · intro h
    exact ⟨List.mem_of_find?_eq_some h, by simpa using List.find?_some h⟩
  · rintro ⟨hmem, rfl⟩
    obtain ⟨m, hm, hid⟩ := exists_node?_of_mem (List.mem_map_of_mem hmem)
    rw [hm, List.inj_on_of_nodup_map hn (List.mem_of_find?_eq_some hm) hmem hid]

namespace Reorders

variable {g' g : Graph} (h : g'.Reorders g)

include h

theorem ids : g'.ids.Perm g.ids := h.nodes.map _

theorem nodup' : g'.ids.Nodup := h.ids.nodup_iff.2 h.nodup

theorem node?_eq (id : String) : g'.node? id = g.node? id := by
  ext n
  rw [node?_eq_some_iff h.nodup', node?_eq_some_iff h.nodup, h.nodes.mem_iff]

theorem has_eq (id : String) : g'.has id = g.has id := by
  rw [Bool.eq_iff_iff, has, has, List.contains_iff_mem, List.contains_iff_mem, h.ids.mem_iff]

theorem resolves_eq (e : Edge) : g'.resolves e = g.resolves e := by
  rw [resolves, resolves, h.has_eq, h.has_eq]

theorem successors (id : String) : (g'.successors id).Perm (g.successors id) := by
  simp only [Graph.successors, h.resolves_eq]
  exact (h.edges.filter _).map _

theorem predecessors (id : String) : (g'.predecessors id).Perm (g.predecessors id) := by
  simp only [Graph.predecessors, h.resolves_eq]
  exact (h.edges.filter _).map _

theorem inDegree_eq (id : String) : g'.inDegree id = g.inDegree id :=
  (h.edges.filter _).length_eq

theorem outDegree_eq (id : String) : g'.outDegree id = g.outDegree id :=
  (h.edges.filter _).length_eq

theorem links_eq : g'.Links = g.Links := by
  funext u v
  exact propext (h.predecessors v).mem_iff

theorem mem_reachable_iff {u v : String} : v ∈ g'.reachable u ↔ v ∈ g.reachable u := by
  rw [mem_reachable h.nodup', mem_reachable h.nodup, h.links_eq]

/-- The same nodes are on cycles or behind them. -/
theorem unordered_eq : Structure.unordered g' = Structure.unordered g := by
  refine Text.sorted_congr fun id => ?_
  have hleft : id ∈ Structure.unordered g' ↔ _ := mem_unordered_iff h.nodup'
  rw [h.links_eq, ← mem_unordered_iff h.nodup] at hleft
  simpa only [Structure.unordered, Text.mem_sorted] using hleft

theorem reachesAny_eq (id : String) {targets' targets : List Node}
    (ht : targets'.Perm targets) :
    Structure.reachesAny g' id targets' = Structure.reachesAny g id targets := by
  rw [Bool.eq_iff_iff]
  simp only [Structure.reachesAny, List.any_eq_true, h.mem_reachable_iff, ht.mem_iff]

end Reorders

end Graph

/-! ## Rules -/

namespace Structure

/-- How often an id is reported. -/
theorem count_repeatedAfter (seen ids : List String) (id : String) :
    (repeatedAfter seen ids).count id =
      if id ∈ seen then ids.count id else ids.count id - 1 := by
  induction ids generalizing seen with
  | nil => simp [repeatedAfter]
  | cons k ids ih =>
    rw [repeatedAfter]
    by_cases hk : k ∈ seen
    · rw [if_pos hk, List.count_cons, List.count_cons, ih]
      by_cases hid : k = id
      · subst hid
        simp [hk]
      · simp [hid]
    · rw [if_neg hk, ih, List.count_cons]
      by_cases hid : k = id
      · subst hid
        simp [hk]
      · simp [hid, Ne.symm hid]

theorem repeatedAfter_perm {ids' ids : List String} (h : ids'.Perm ids) :
    (repeatedAfter [] ids').Perm (repeatedAfter [] ids) := by
  rw [List.perm_iff_count]
  intro id
  rw [count_repeatedAfter, count_repeatedAfter, h.count_eq]

/-- A workflow is another one with its nodes and edges in some order. -/
structure Relists (w' w : Workflow) : Prop where
  nodes : w'.nodes.Perm w.nodes
  edges : w'.edges.Perm w.edges
  rest : w' = { w with nodes := w'.nodes, edges := w'.edges }

namespace Relists

variable {w' w : Workflow} (h : Relists w' w)

include h

theorem reorders (hn : (w.nodes.map (·.id)).Nodup) :
    (Graph.ofWorkflow w').Reorders (Graph.ofWorkflow w) where
  nodes := by
    have hn' : (w'.nodes.map (·.id)).Nodup := (h.nodes.map _).nodup_iff.2 hn
    simpa only [Graph.ofWorkflow, firstById_of_nodup hn, firstById_of_nodup hn'] using h.nodes
  edges := h.edges
  nodup := Graph.nodup_ids w

theorem mode_eq : w'.mode = w.mode := by rw [h.rest]

theorem requiredFields_eq : requiredFields w' = requiredFields w := by
  have hmissing : missingFields w' = missingFields w := by
    unfold missingFields
    rw [h.nodes.isEmpty_eq, h.edges.isEmpty_eq, h.rest]
  rw [requiredFields, requiredFields, hmissing]

theorem uniqueIds : (uniqueIds w').Perm (uniqueIds w) :=
  ((repeatedAfter_perm (h.nodes.map _)).map _).append ((repeatedAfter_perm (h.edges.map _)).map _)

theorem shuffles : w'.Shuffles w where
  nodes := h.nodes
  edges := h.edges
  agentBindings := .of_eq (by rw [h.rest])
  paramSetBindings := .of_eq (by rw [h.rest])
  dataConnectorBindings := .of_eq (by rw [h.rest])

theorem parameterCodes_eq : w'.parameterCodes = w.parameterCodes :=
  h.shuffles.codes_eq .parameter

theorem parameters_eq : parameters w' = parameters w := by
  have hbound : w'.boundSets = w.boundSets := by rw [h.rest]; rfl
  rw [parameters, parameters, h.parameterCodes_eq, hbound]

theorem conditions : (conditions w').Perm (conditions w) :=
  (h.edges.filter _).filterMap _

theorem rollout_eq : rollout w' = rollout w := by
  have hconfig : w'.experimentConfig = w.experimentConfig := by rw [h.rest]
  rw [rollout, rollout, hconfig]

section Graph

variable {g' g : Graph} (hg : g'.Reorders g)

include hg

theorem edgeEnds : (edgeEnds w' g').Perm (edgeEnds w g) := by
  refine perm_filterMap h.edges fun e => ?_
  have hloose : looseEnds g' e = looseEnds g e := by simp only [looseEnds, hg.has_eq]
  rw [hloose]

theorem singleChain : (singleChain w' g').Perm (singleChain w g) := by
  simp only [Structure.singleChain, h.mode_eq, hg.inDegree_eq, hg.outDegree_eq]
  split
  · exact hg.nodes.flatMap_right _
  · exact .refl _

theorem acyclic_eq : acyclic w' g' = acyclic w g := by
  rw [acyclic, acyclic, h.mode_eq, hg.unordered_eq]

theorem debateRoles : (debateRoles w' g').Perm (debateRoles w g) := by
  have hjudges : (g'.ofTypes ["judge-agent"]).Perm (g.ofTypes ["judge-agent"]) :=
    hg.nodes.filter _
  simp only [Structure.debateRoles, h.mode_eq, hg.nodes.any_eq, hjudges.isEmpty_eq,
    fun id => hg.reachesAny_eq id hjudges]
  split
  · refine List.Perm.append (.refl _) ?_
    split
    · exact .refl _
    · exact hg.nodes.filterMap _
  · exact .refl _

theorem joinedBranches : (joinedBranches w' g').Perm (joinedBranches w g) := by
  simp only [Structure.joinedBranches, h.mode_eq,
    fun id => Text.length_distinct_of_perm (hg.predecessors id)]
  split
  · exact hg.nodes.filterMap _
  · exact .refl _

theorem fieldTypes : (fieldTypes w' g').Perm (fieldTypes w g) := by
  have hedge : edgeFieldTypes g' = edgeFieldTypes g := by
    funext e
    simp only [edgeFieldTypes, hg.node?_eq]
  rw [Structure.fieldTypes, hedge]
  exact (h.edges.filter _).flatMap_right _

theorem runPolicy : (runPolicy w' g').Perm (runPolicy w g) := by
  have hpolicy : w'.runPolicy = w.runPolicy := by rw [h.rest]
  rw [Structure.runPolicy, hpolicy]
  exact hg.nodes.filterMap _

end Graph

end Relists

section Graph

variable {g' g : Graph} (hg : g'.Reorders g)

include hg

theorem connected_of_reorders : (connected g').Perm (connected g) := by
  simp only [connected, hg.inDegree_eq, hg.outDegree_eq]
  exact hg.nodes.filterMap _

theorem approvalOutputs_of_reorders (outputTypes : List String) :
    (approvalOutputs outputTypes g').Perm (approvalOutputs outputTypes g) := by
  refine (hg.nodes.filter _).flatMap fun n _ => List.Perm.map _ ?_
  exact (perm_filterMap (hg.successors n.id) hg.node?_eq).filter _

theorem quorum_of_reorders : (quorum g').Perm (quorum g) := hg.nodes.filterMap _

theorem bindingSources_of_reorders : (bindingSources g').Perm (bindingSources g) := by
  have href : referenceFault? g' = referenceFault? g := by
    funext n ref
    simp only [referenceFault?, hg.node?_eq]
  rw [bindingSources, href]
  exact hg.nodes.flatMap_right _

theorem mergeFanIn_of_reorders : (mergeFanIn g').Perm (mergeFanIn g) := by
  simp only [mergeFanIn, hg.inDegree_eq]
  exact hg.nodes.filterMap _

theorem riskGate_of_reorders : riskGate g' = riskGate g := by
  rw [riskGate, riskGate, hg.nodes.any_eq]

theorem evidence_of_reorders : evidence g' = evidence g := by
  have htypes : (g'.nodes.map (·.type)).Perm (g.nodes.map (·.type)) := hg.nodes.map _
  simp only [evidence, htypes.any_eq, htypes.mem_iff]

end Graph

/-! ## Verdicts -/

variable {w' w : Workflow} {outputTypes : List String} {stage : Stage} {v : Verdict}

/-- No verdict is valid when an id comes twice. -/
theorem not_valid_of_repeated (h : validate outputTypes w stage = .ok v)
    (hn : ¬ (w.nodes.map (·.id)).Nodup) : v.valid = false :=
  Bool.eq_false_iff.2 fun hvalid => hn (wellShaped_of_valid h hvalid).nodup_ids

/-- Only the experiment can keep validation from a verdict. -/
theorem validate_publish (outputTypes : List String) (w : Workflow) :
    validate outputTypes w .publish = (rollout w).map fun experiment =>
      ⟨saveIssues outputTypes w ++ (riskGate (Graph.ofWorkflow w) ++
        runPolicy w (Graph.ofWorkflow w) ++ evidence (Graph.ofWorkflow w) ++ experiment)⟩ := by
  rw [validate, publishIssues]
  cases rollout w <;> rfl

namespace Relists

variable (h : Relists w' w)

include h

theorem saveIssues (hn : (w.nodes.map (·.id)).Nodup) :
    (saveIssues outputTypes w').Perm (saveIssues outputTypes w) := by
  have hg := h.reorders hn
  have hshape := ((((.of_eq h.requiredFields_eq : List.Perm _ _).append h.uniqueIds).append
    (h.edgeEnds hg)).append (connected_of_reorders hg)).append (h.singleChain hg)
  have hroles := (((((hshape.append (.of_eq (h.acyclic_eq hg))).append (h.debateRoles hg)).append
    (h.joinedBranches hg)).append (approvalOutputs_of_reorders hg outputTypes)).append
    (quorum_of_reorders hg))
  exact ((((hroles.append (h.fieldTypes hg)).append (bindingSources_of_reorders hg)).append
    (.of_eq h.parameters_eq)).append (mergeFanIn_of_reorders hg)).append h.conditions

/-- The same issues are found when ids come once. -/
theorem issues_eq (hn : (w.nodes.map (·.id)).Nodup) (stage : Stage) :
    (validate outputTypes w' stage).map (fun v => (v.issues : Multiset Issue)) =
      (validate outputTypes w stage).map fun v => (v.issues : Multiset Issue) := by
  cases stage with
  | save => exact congrArg Except.ok (Multiset.coe_eq_coe.2 (h.saveIssues hn))
  | publish =>
    have hg := h.reorders hn
    rw [validate_publish, validate_publish, h.rollout_eq]
    cases rollout w with
    | error e => simp only [Except.map]
    | ok experiment =>
      have hfurther := (((List.Perm.of_eq (riskGate_of_reorders hg)).append
        (h.runPolicy hg)).append (.of_eq (evidence_of_reorders hg))).append (.refl experiment)
      exact congrArg Except.ok (Multiset.coe_eq_coe.2 ((h.saveIssues hn).append hfurther))

/-- There is a verdict of the one iff there is one of the other. -/
theorem settles_eq (stage : Stage) (b : Bool) :
    (validate outputTypes w' stage).map (fun _ => b) =
      (validate outputTypes w stage).map fun _ => b := by
  cases stage with
  | save => simp only [validate_save, Except.map]
  | publish =>
    rw [validate_publish, validate_publish, h.rollout_eq]
    cases rollout w <;> simp only [Except.map]

theorem valid_eq (stage : Stage) :
    (validate outputTypes w' stage).map Verdict.valid =
      (validate outputTypes w stage).map Verdict.valid := by
  by_cases hn : (w.nodes.map (·.id)).Nodup
  · have hissues : (validate outputTypes w' stage).map _ = _ := h.issues_eq hn stage
    cases hv' : validate outputTypes w' stage with
    | error e =>
      cases hv : validate outputTypes w stage with
      | error e' => rfl
      | ok v => simp [hv', hv, Except.map] at hissues
    | ok v' =>
      cases hv : validate outputTypes w stage with
      | error e' => simp [hv', hv, Except.map] at hissues
      | ok v =>
        simp only [hv', hv, Except.map, Except.ok.injEq, Multiset.coe_eq_coe] at hissues
        exact congrArg Except.ok hissues.all_eq
  · have hn' : ¬ (w'.nodes.map (·.id)).Nodup := by rwa [(h.nodes.map _).nodup_iff]
    have hinvalid : ∀ w : Workflow, ¬ (w.nodes.map (·.id)).Nodup →
        (validate outputTypes w stage).map Verdict.valid =
          (validate outputTypes w stage).map fun _ => false := by
      intro w hn
      cases hv : validate outputTypes w stage with
      | error e => rfl
      | ok v => exact congrArg Except.ok (not_valid_of_repeated hv hn)
    rw [hinvalid w' hn', hinvalid w hn, h.settles_eq]

end Relists

end Structure

/-- **Order does not matter.** However the nodes and the edges of a workflow are listed, validation
at either stage comes to the same verdict, valid or not, or fails in the same way. When the ids of
the nodes come once, the same issues are found, each one as often. -/
theorem validate_of_perm (outputTypes : List String) (w : Workflow) (nodes : List Node)
    (edges : List Edge) (hnodes : nodes.Perm w.nodes) (hedges : edges.Perm w.edges)
    (stage : Stage) :
    (Structure.validate outputTypes { w with nodes, edges } stage).map Verdict.valid =
      (Structure.validate outputTypes w stage).map Verdict.valid ∧
    ((w.nodes.map (·.id)).Nodup →
      (Structure.validate outputTypes { w with nodes, edges } stage).map
          (fun v => (v.issues : Multiset Issue)) =
        (Structure.validate outputTypes w stage).map fun v => (v.issues : Multiset Issue)) := by
  have h : Structure.Relists { w with nodes, edges } w := ⟨hnodes, hedges, rfl⟩
  exact ⟨h.valid_eq stage, fun hn => h.issues_eq hn stage⟩

/-- Two branches from a trigger to a join, listed from the end. -/
def reversedDiamond : Workflow :=
  { diamond with nodes := diamond.nodes.reverse, edges := diamond.edges.reverse }

/-- Run policies are missing at all nodes but the trigger, which is said in the order of the
nodes. -/
theorem validate_of_perm_reversed :
    reversedDiamond.nodes.Perm diamond.nodes ∧ reversedDiamond.edges.Perm diamond.edges ∧
    (diamond.nodes.map (·.id)).Nodup ∧
    (Structure.validate outputTypes reversedDiamond .publish).map Verdict.valid =
      (Structure.validate outputTypes diamond .publish).map Verdict.valid ∧
    (Structure.validate outputTypes reversedDiamond .publish).map
        (fun v => (v.issues : Multiset Issue)) =
      (Structure.validate outputTypes diamond .publish).map
        (fun v => (v.issues : Multiset Issue)) ∧
    Structure.validate outputTypes reversedDiamond .publish ≠
      Structure.validate outputTypes diamond .publish := by
  have hnodes : reversedDiamond.nodes.Perm diamond.nodes := List.reverse_perm _
  have hedges : reversedDiamond.edges.Perm diamond.edges := List.reverse_perm _
  have hn : (diamond.nodes.map (·.id)).Nodup := by decide +kernel
  obtain ⟨hvalid, hissues⟩ := validate_of_perm outputTypes diamond diamond.nodes.reverse
    diamond.edges.reverse hnodes hedges .publish
  exact ⟨hnodes, hedges, hn, hvalid, hissues hn, by decide +kernel⟩

end WorkflowRelease
