import Mathlib.Data.List.Forall2
import WorkflowRelease.Proofs.Structure.Reordered

/-!
# Types that are not known

The type of a node is an open tag, and one that is not known (`Node.IsUnknown`) may become known
later. Until then it is nothing but a name: a node keeps its kind when one such type is replaced by
another (`Node.Retypes`), and no rule tests for it, so every rule finds the same. The type itself is
read out in one message, about what follows an approval. Main statement: `validate_of_retyped`.
-/

namespace WorkflowRelease

/-! ## Lists that are related element by element -/

section Related

variable {α β : Type} {R : α → α → Prop} {l' l : List α} (h : List.Forall₂ R l' l)

include h

theorem map_eq_of_related {f' f : α → β} (hf : ∀ a' a, R a' a → f' a' = f a) :
    l'.map f' = l.map f := by
  induction h with
  | nil => rfl
  | cons hr _ ih => rw [List.map_cons, List.map_cons, hf _ _ hr, ih]

theorem flatMap_eq_of_related {f' f : α → List β} (hf : ∀ a' a, R a' a → f' a' = f a) :
    l'.flatMap f' = l.flatMap f := by
  rw [List.flatMap_def, List.flatMap_def, map_eq_of_related h hf]

theorem filterMap_eq_of_related {f' f : α → Option β} (hf : ∀ a' a, R a' a → f' a' = f a) :
    l'.filterMap f' = l.filterMap f := by
  induction h with
  | nil => rfl
  | cons hr _ ih => rw [List.filterMap_cons, List.filterMap_cons, hf _ _ hr, ih]

theorem any_eq_of_related {p : α → Bool} (hp : ∀ a' a, R a' a → p a' = p a) :
    l'.any p = l.any p := by
  induction h with
  | nil => rfl
  | cons hr _ ih => rw [List.any_cons, List.any_cons, hp _ _ hr, ih]

theorem find?_related {p : α → Bool} (hp : ∀ a' a, R a' a → p a' = p a) :
    Option.Rel R (l'.find? p) (l.find? p) := by
  induction h with
  | nil => exact .none
  | @cons a' a _ _ hr _ ih =>
    rw [List.find?_cons, List.find?_cons, hp _ _ hr]
    cases p a with
    | true => exact .some hr
    | false => exact ih

end Related

/-! ## Nodes -/

namespace Node

/-- The types that stand for a kind by their name. -/
def namedTypes : List String :=
  ["approval", "risk-gate", "join", "decision-merge", "debate-round", "context-builder",
    "subflow-call"] ++ WorkflowRelease.outputTypes ++ ruleTypes ++ agentTypes

theorem kind_eq_generic_iff {n : Node} : n.kind = .generic ↔
    n.type ∉ namedTypes ∧ isTriggerType n.type = false ∧ isDataFetchType n.type = false := by
  have hnamed : n.type ∈ namedTypes ↔ n.type = "approval" ∨ n.type = "risk-gate" ∨
      n.type = "join" ∨ n.type = "decision-merge" ∨ n.type = "debate-round" ∨
      n.type = "context-builder" ∨ n.type = "subflow-call" ∨
      n.type ∈ WorkflowRelease.outputTypes ∨ n.type ∈ ruleTypes ∨ n.type ∈ agentTypes := by
    simp only [namedTypes, List.mem_append, List.mem_cons, List.not_mem_nil, or_false, or_assoc]
  rw [hnamed]
  unfold kind
  iterate 12 rw [ite_eq_iff_of_ne (by nofun)]
  simp only [not_or, and_assoc, and_true, Bool.not_eq_true]

/-- The type of the node makes it generic, and is none of the types of output nodes that a service
is set up with. -/
def IsUnknown (outputTypes : List String) (n : Node) : Prop :=
  n.kind = .generic ∧ n.type ∉ outputTypes

instance (outputTypes : List String) (n : Node) : Decidable (n.IsUnknown outputTypes) :=
  inferInstanceAs (Decidable (_ ∧ _))

theorem IsUnknown.not_mem {outputTypes : List String} {n : Node} (h : n.IsUnknown outputTypes)
    {types : List String} (htypes : types ⊆ namedTypes) : n.type ∉ types :=
  fun hmem => (kind_eq_generic_iff.1 h.1).1 (htypes hmem)

/-- A node is another one, but for an unknown type that may have been replaced by another. -/
inductive Retypes (outputTypes : List String) : Node → Node → Prop
  | same (n : Node) : Retypes outputTypes n n
  | retyped {n : Node} {type : String} (before : n.IsUnknown outputTypes)
      (after : { n with type }.IsUnknown outputTypes) : Retypes outputTypes { n with type } n

namespace Retypes

variable {outputTypes : List String} {n' n : Node} (h : Retypes outputTypes n' n)

include h

theorem eq_with_type : n' = { n with type := n'.type } := by cases h <;> rfl

theorem id_eq : n'.id = n.id := by rw [h.eq_with_type]

theorem name_eq : n'.name = n.name := by rw [h.eq_with_type]

theorem enabled_eq : n'.enabled = n.enabled := by rw [h.eq_with_type]

theorem config_eq : n'.config = n.config := by rw [h.eq_with_type]

theorem policy_eq : n'.policy = n.policy := by rw [h.eq_with_type]

theorem inputBindings_eq : n'.inputBindings = n.inputBindings := by rw [h.eq_with_type]

theorem outputSchema_eq : n'.outputSchema = n.outputSchema := by rw [h.eq_with_type]

theorem kind_eq : n'.kind = n.kind := by
  cases h with
  | same => rfl
  | retyped before after => exact after.1.trans before.1.symm

/-- A test that no unknown type passes cannot tell the types apart. -/
theorem test_eq {p : String → Bool}
    (hp : ∀ m : Node, m.IsUnknown outputTypes → p m.type = false) : p n'.type = p n.type := by
  cases h with
  | same => rfl
  | retyped before after => exact (hp _ after).trans (hp _ before).symm

/-- No list of named types holds one of them and not the other. -/
theorem mem_iff_of_named (types : List String) (htypes : types ⊆ namedTypes) :
    n'.type ∈ types ↔ n.type ∈ types := by
  rw [← decide_eq_decide]
  exact h.test_eq (p := fun t => decide (t ∈ types)) fun m hm => decide_eq_false (hm.not_mem htypes)

theorem mem_outputTypes_iff : n'.type ∈ outputTypes ↔ n.type ∈ outputTypes := by
  rw [← decide_eq_decide]
  exact h.test_eq (p := fun t => decide (t ∈ outputTypes)) fun m hm => decide_eq_false hm.2

theorem eq_iff_of_named (type : String) (htype : type ∈ namedTypes) :
    n'.type = type ↔ n.type = type := by
  simpa using h.mem_iff_of_named [type] (by simpa using htype)

theorem outputs?_eq : FieldTypes.outputs? n' = FieldTypes.outputs? n := by
  rw [FieldTypes.outputs?, FieldTypes.outputs?, h.outputSchema_eq, h.config_eq]

theorem inputs?_eq : FieldTypes.inputs? n' = FieldTypes.inputs? n := by
  rw [FieldTypes.inputs?, FieldTypes.inputs?, h.config_eq]

end Retypes

end Node

/-! ## Graphs -/

namespace Graph

/-- Walks are searched for along successors alone. -/
theorem visit_congr {g' g : Graph} (h : ∀ id, g'.successors id = g.successors id)
    (unseen queue : List String) : g'.visit unseen queue = g.visit unseen queue := by
  induction unseen, queue using visit.induct g with
  | case1 => rw [visit, visit]
  | case2 unseen id queue hid ih => rw [visit, visit, dif_pos hid, dif_pos hid, h, ih]
  | case3 unseen id queue hid ih => rw [visit, visit, dif_neg hid, dif_neg hid, ih]

theorem release_congr {g' g : Graph} (h : ∀ id, g'.successors id = g.successors id)
    (waiting : Waiting) (queue : List String) :
    g'.release waiting queue = g.release waiting queue := by
  induction waiting, queue using release.induct g with
  | case1 => rw [release, release]
  | case2 waiting id queue ih => rw [release, release, h, ih]

/-- A graph is another one with unknown types replaced. -/
structure Retypes (outputTypes : List String) (g' g : Graph) : Prop where
  nodes : List.Forall₂ (Node.Retypes outputTypes) g'.nodes g.nodes
  edges : g'.edges = g.edges

namespace Retypes

variable {outputTypes : List String} {g' g : Graph} (h : g'.Retypes outputTypes g)

include h

theorem ids_eq : g'.ids = g.ids := map_eq_of_related h.nodes fun _ _ hn => hn.id_eq

theorem has_eq (id : String) : g'.has id = g.has id := by rw [has, has, h.ids_eq]

theorem successors_eq (id : String) : g'.successors id = g.successors id := by
  simp only [successors, resolves, h.has_eq, h.edges]

theorem predecessors_eq (id : String) : g'.predecessors id = g.predecessors id := by
  simp only [predecessors, resolves, h.has_eq, h.edges]

theorem inDegree_eq (id : String) : g'.inDegree id = g.inDegree id := by
  rw [inDegree, inDegree, h.edges]

theorem outDegree_eq (id : String) : g'.outDegree id = g.outDegree id := by
  rw [outDegree, outDegree, h.edges]

theorem reachable_eq (id : String) : g'.reachable id = g.reachable id := by
  rw [reachable, reachable, h.ids_eq, h.successors_eq, visit_congr h.successors_eq]

theorem topologicalOrder_eq : g'.topologicalOrder = g.topologicalOrder := by
  simp only [topologicalOrder, h.ids_eq, h.predecessors_eq, release_congr h.successors_eq]

theorem ofTypes (types : List String) (htypes : types ⊆ Node.namedTypes) :
    List.Forall₂ (Node.Retypes outputTypes) (g'.ofTypes types) (g.ofTypes types) :=
  List.rel_filter (fun _ _ hn => by simpa using hn.mem_iff_of_named types htypes) h.nodes

/-- Whether some node passes a test that no unknown type passes. -/
theorem any_eq {p : String → Bool}
    (hp : ∀ m : Node, m.IsUnknown outputTypes → p m.type = false) :
    g'.nodes.any (fun n => p n.type) = g.nodes.any fun n => p n.type :=
  any_eq_of_related h.nodes fun _ _ hn => hn.test_eq hp

theorem any_mem_eq (types : List String) (htypes : types ⊆ Node.namedTypes) :
    g'.nodes.any (·.type ∈ types) = g.nodes.any (·.type ∈ types) :=
  h.any_eq (p := fun t => decide (t ∈ types)) fun _ hm => decide_eq_false (hm.not_mem htypes)

theorem any_type_eq (type : String) (htype : type ∈ Node.namedTypes) :
    g'.nodes.any (·.type = type) = g.nodes.any (·.type = type) :=
  any_eq_of_related h.nodes fun _ _ hn => decide_eq_decide.2 (hn.eq_iff_of_named type htype)

/-- The nodes of one id. -/
theorem node? (id : String) :
    Option.Rel (Node.Retypes outputTypes) (g'.node? id) (g.node? id) :=
  find?_related h.nodes fun _ _ hn => by rw [hn.id_eq]

end Retypes

end Graph

theorem firstById_retypes {outputTypes : List String} {ns' ns : List Node}
    (h : List.Forall₂ (Node.Retypes outputTypes) ns' ns) :
    List.Forall₂ (Node.Retypes outputTypes) (firstById ns') (firstById ns) := by
  induction h with
  | nil => exact .nil
  | cons hn _ ih =>
    exact .cons hn (List.rel_filter (fun _ _ hm => by simp [hm.id_eq, hn.id_eq]) ih)

/-! ## Rules -/

/-- The rule that is broken, and the node or the edge at which it is. -/
def Issue.place (i : Issue) : String × Option String × Option String := (i.code, i.nodeId, i.edgeId)

theorem Issue.place_atNode (rule : Rule) (message id : String) :
    ((broken rule message).atNode id).place = (rule.code, some id, none) := rfl

namespace Structure

section Graph

variable {outputTypes : List String} {w' w : Workflow} {g' g : Graph}
  (h : g'.Retypes outputTypes g)

include h

theorem edgeEnds_of_retypes (hedges : w'.edges = w.edges) : edgeEnds w' g' = edgeEnds w g := by
  simp only [edgeEnds, looseEnds, hedges, h.has_eq]

theorem connected_of_retypes : connected g' = connected g :=
  filterMap_eq_of_related h.nodes fun _ _ hn => by
    simp only [hn.id_eq, hn.name_eq, hn.kind_eq, h.inDegree_eq, h.outDegree_eq]

theorem singleChain_of_retypes (hmode : w'.mode = w.mode) :
    singleChain w' g' = singleChain w g := by
  have hchain : g'.nodes.flatMap (fun n => chainIssues n (g'.inDegree n.id) (g'.outDegree n.id)) =
      g.nodes.flatMap fun n => chainIssues n (g.inDegree n.id) (g.outDegree n.id) :=
    flatMap_eq_of_related h.nodes fun _ _ hn => by
      simp only [chainIssues, hn.id_eq, hn.name_eq, hn.kind_eq, h.inDegree_eq, h.outDegree_eq]
  rw [singleChain, singleChain, hmode, hchain]

theorem acyclic_of_retypes (hmode : w'.mode = w.mode) : acyclic w' g' = acyclic w g := by
  simp only [acyclic, unordered, hmode, h.ids_eq, h.topologicalOrder_eq]

theorem reachesAny_of_retypes (id : String) {targets' targets : List Node}
    (ht : List.Forall₂ (Node.Retypes outputTypes) targets' targets) :
    reachesAny g' id targets' = reachesAny g id targets := by
  rw [reachesAny, reachesAny, h.reachable_eq]
  refine congrArg _ (funext fun r => any_eq_of_related ht fun _ _ hn => ?_)
  rw [hn.id_eq]

theorem debateRoles_of_retypes (hmode : w'.mode = w.mode) :
    debateRoles w' g' = debateRoles w g := by
  have hnamed : debateTypes ⊆ Node.namedTypes := by decide
  have hmissing : debateTypes.filter (fun t => !g'.nodes.any (·.type = t)) =
      debateTypes.filter fun t => !g.nodes.any (·.type = t) :=
    List.filter_congr fun t ht => by rw [h.any_type_eq t (hnamed ht)]
  have hjudges := h.ofTypes ["judge-agent"] (by decide)
  have hnone : (g'.ofTypes ["judge-agent"]).isEmpty = (g.ofTypes ["judge-agent"]).isEmpty := by
    rw [Bool.eq_iff_iff, List.isEmpty_iff_length_eq_zero, List.isEmpty_iff_length_eq_zero,
      hjudges.length_eq]
  simp only [debateRoles, hmode, hmissing, hnone]
  refine ite_congr rfl (fun _ => ?_) fun _ => rfl
  refine congrArg _ (ite_congr rfl (fun _ => rfl) fun _ => ?_)
  exact filterMap_eq_of_related h.nodes fun _ _ hn => by
    simp only [hn.id_eq, hn.name_eq, hn.kind_eq, reachesAny_of_retypes h _ hjudges]

theorem joinedBranches_of_retypes (hmode : w'.mode = w.mode) :
    joinedBranches w' g' = joinedBranches w g := by
  simp only [joinedBranches, hmode]
  split
  · exact filterMap_eq_of_related h.nodes fun _ _ hn => by
      simp only [hn.id_eq, hn.name_eq, h.predecessors_eq,
        hn.mem_iff_of_named joinTypes (by decide)]
  · rfl

theorem quorum_of_retypes : quorum g' = quorum g :=
  filterMap_eq_of_related h.nodes fun _ _ hn => by simp only [hn.id_eq, hn.kind_eq]

theorem fieldTypes_of_retypes (hedges : w'.edges = w.edges) :
    fieldTypes w' g' = fieldTypes w g := by
  have hedge : edgeFieldTypes g' = edgeFieldTypes g := by
    funext e
    unfold edgeFieldTypes
    have hsource := h.node? e.source
    have htarget := h.node? e.target
    generalize g'.node? e.source = source', g.node? e.source = source at hsource ⊢
    generalize g'.node? e.target = target', g.node? e.target = target at htarget ⊢
    cases hsource with
    | none => rfl
    | @some source' source hs =>
      cases htarget with
      | none => rfl
      | @some target' target ht =>
        have hfault : pairFault? e source' target' = pairFault? e source target := by
          funext outputs inputs paths
          simp only [pairFault?, hs.name_eq, ht.name_eq]
        have hbindings : bindingsOf target' = bindingsOf target := by
          rw [bindingsOf, bindingsOf, ht.inputBindings_eq]
        simp only [hs.outputs?_eq, ht.inputs?_eq, connectedPaths, hbindings, hs.id_eq, hfault]
  rw [fieldTypes, fieldTypes, hedges, hedge]

theorem bindingSources_of_retypes : bindingSources g' = bindingSources g := by
  have hfault : ∀ n' n, n'.Retypes outputTypes n →
      referenceFault? g' n' = referenceFault? g n := by
    intro n' n hn
    funext ref
    unfold referenceFault?
    have hsource := h.node? ref.scope
    generalize g'.node? ref.scope = source', g.node? ref.scope = source at hsource ⊢
    cases hsource with
    | none => simp only [hn.id_eq, hn.name_eq]
    | some hs => simp only [hn.id_eq, hn.name_eq, hs.outputs?_eq]
  refine flatMap_eq_of_related h.nodes fun n' n hn => ?_
  rw [hfault n' n hn, bindingsOf, bindingsOf, hn.inputBindings_eq]

theorem mergeFanIn_of_retypes : mergeFanIn g' = mergeFanIn g :=
  filterMap_eq_of_related h.nodes fun _ _ hn => by
    simp only [hn.id_eq, hn.name_eq, hn.kind_eq, h.inDegree_eq]

theorem riskGate_of_retypes : riskGate g' = riskGate g := by
  rw [riskGate, riskGate, h.any_type_eq "risk-gate" (by decide)]

theorem runPolicy_of_retypes (hpolicy : w'.runPolicy = w.runPolicy) :
    runPolicy w' g' = runPolicy w g := by
  simp only [runPolicy, hpolicy]
  exact filterMap_eq_of_related h.nodes fun _ _ hn => by
    simp only [hn.id_eq, hn.name_eq, hn.kind_eq, hn.enabled_eq, missingPolicy, hn.policy_eq,
      hn.config_eq]

theorem evidence_of_retypes : evidence g' = evidence g := by
  have hgate : ∀ g : Graph, "risk-gate" ∈ g.nodes.map (·.type) ↔
      g.nodes.any (·.type = "risk-gate") = true := fun g => by
    simp only [List.mem_map, List.any_eq_true, decide_eq_true_eq]
  have hdata := h.any_eq (p := isDataFetchType) fun m hm => (Node.kind_eq_generic_iff.1 hm.1).2.2
  have hrules := h.any_mem_eq ruleTypes (by decide)
  have hmodels := h.any_mem_eq modelTypes (by decide)
  simp only [evidence, hgate, h.any_type_eq "risk-gate" (by decide), List.any_map,
    Function.comp_def, hdata, hrules, hmodels]

/-- What follows an approval is told by its type, but it is the approval that an issue is about. -/
theorem approvalOutputs_of_retypes : (approvalOutputs outputTypes g').map Issue.place =
    (approvalOutputs outputTypes g).map Issue.place := by
  have htargets : ∀ id, List.Forall₂ (Node.Retypes outputTypes)
      (((g'.successors id).filterMap g'.node?).filter (·.type ∉ outputTypes))
      (((g.successors id).filterMap g.node?).filter (·.type ∉ outputTypes)) := by
    intro id
    rw [h.successors_eq]
    refine List.rel_filter (fun _ _ hn => ?_) ?_
    · simpa using not_congr hn.mem_outputTypes_iff
    · refine List.rel_filterMap (R := Eq) (fun id _ hid => hid ▸ h.node? id) ?_
      rw [List.forall₂_eq_eq_eq]
  have happrovals : List.Forall₂ (Node.Retypes outputTypes)
      (g'.nodes.filter (·.kind = .approval)) (g.nodes.filter (·.kind = .approval)) :=
    List.rel_filter (fun _ _ hn => by simp [hn.kind_eq]) h.nodes
  rw [approvalOutputs, approvalOutputs, List.map_flatMap, List.map_flatMap]
  refine flatMap_eq_of_related happrovals fun n' n hn => ?_
  rw [approvalTargets, approvalTargets, List.map_map, List.map_map, hn.id_eq]
  exact map_eq_of_related (htargets n.id) fun _ _ _ => by
    simp only [Function.comp_apply, Issue.place_atNode]

end Graph

/-! ## Workflows -/

/-- A workflow is another one with unknown types replaced. -/
structure Retypes (outputTypes : List String) (w' w : Workflow) : Prop where
  nodes : List.Forall₂ (Node.Retypes outputTypes) w'.nodes w.nodes
  rest : w' = { w with nodes := w'.nodes }

namespace Retypes

variable {outputTypes : List String} {w' w : Workflow} (h : Retypes outputTypes w' w)

include h

theorem graph : (Graph.ofWorkflow w').Retypes outputTypes (Graph.ofWorkflow w) where
  nodes := firstById_retypes h.nodes
  edges := by rw [h.rest]; rfl

theorem edges_eq : w'.edges = w.edges := by rw [h.rest]

theorem mode_eq : w'.mode = w.mode := by rw [h.rest]

theorem runPolicy_eq : w'.runPolicy = w.runPolicy := by rw [h.rest]

theorem boundSets_eq : w'.boundSets = w.boundSets := by rw [h.rest]; rfl

theorem requiredFields_eq : requiredFields w' = requiredFields w := by
  have hempty : w'.nodes.isEmpty = w.nodes.isEmpty := by
    rw [Bool.eq_iff_iff, List.isEmpty_iff_length_eq_zero, List.isEmpty_iff_length_eq_zero,
      h.nodes.length_eq]
  have hmissing : missingFields w' = missingFields w := by
    unfold missingFields
    rw [hempty, h.rest]
  rw [requiredFields, requiredFields, hmissing]

theorem uniqueIds_eq : uniqueIds w' = uniqueIds w := by
  have hids : w'.nodes.map (·.id) = w.nodes.map (·.id) :=
    map_eq_of_related h.nodes fun _ _ hn => hn.id_eq
  rw [uniqueIds, uniqueIds, hids, h.edges_eq]

theorem parameterCodes_eq : w'.parameterCodes = w.parameterCodes := by
  have htemplated : w'.nodes.flatMap Node.templated = w.nodes.flatMap Node.templated :=
    flatMap_eq_of_related h.nodes fun _ _ hn => by
      rw [Node.templated, Node.templated, hn.config_eq, hn.inputBindings_eq]
  rw [Workflow.parameterCodes, Workflow.parameterCodes, Workflow.templated, Workflow.templated,
    htemplated, h.edges_eq]

theorem parameters_eq : parameters w' = parameters w := by
  rw [parameters, parameters, h.parameterCodes_eq, h.boundSets_eq]

theorem conditions_eq : conditions w' = conditions w := by rw [conditions, conditions, h.edges_eq]

theorem rollout_eq : rollout w' = rollout w := by rw [rollout, h.rest]; rfl

theorem saveIssues : (saveIssues outputTypes w').map Issue.place =
    (saveIssues outputTypes w).map Issue.place := by
  have hg := h.graph
  simp only [Structure.saveIssues, List.map_append, h.requiredFields_eq, h.uniqueIds_eq,
    edgeEnds_of_retypes hg h.edges_eq, connected_of_retypes hg,
    singleChain_of_retypes hg h.mode_eq, acyclic_of_retypes hg h.mode_eq,
    debateRoles_of_retypes hg h.mode_eq, joinedBranches_of_retypes hg h.mode_eq,
    approvalOutputs_of_retypes hg, quorum_of_retypes hg, fieldTypes_of_retypes hg h.edges_eq,
    bindingSources_of_retypes hg, h.parameters_eq, mergeFanIn_of_retypes hg, h.conditions_eq]

/-- The same is found at the same places. -/
theorem places_eq (stage : Stage) :
    (validate outputTypes w' stage).map (fun v => v.issues.map Issue.place) =
      (validate outputTypes w stage).map fun v => v.issues.map Issue.place := by
  cases stage with
  | save => exact congrArg Except.ok h.saveIssues
  | publish =>
    have hg := h.graph
    rw [validate_publish, validate_publish, h.rollout_eq, riskGate_of_retypes hg,
      runPolicy_of_retypes hg h.runPolicy_eq, evidence_of_retypes hg]
    cases rollout w with
    | error e => simp only [Except.map]
    | ok experiment => simp only [Except.map, List.map_append, h.saveIssues]

/-- Codes are taken from nodes by their kind. -/
theorem references_eq : w'.references = w.references := by
  have hpacks : w'.nodes.flatMap Node.usedPacks = w.nodes.flatMap Node.usedPacks :=
    flatMap_eq_of_related h.nodes fun _ _ hn => by
      rw [Node.usedPacks, Node.usedPacks, hn.kind_eq]
  have hagents : w'.nodes.filterMap Node.agentCode? = w.nodes.filterMap Node.agentCode? :=
    filterMap_eq_of_related h.nodes fun _ _ hn => by
      rw [Node.agentCode?, Node.agentCode?, hn.kind_eq]
  have hsubflows : w'.nodes.filterMap Node.subflow? = w.nodes.filterMap Node.subflow? :=
    filterMap_eq_of_related h.nodes fun _ _ hn => by
      rw [Node.subflow?, Node.subflow?, hn.kind_eq, hn.id_eq, hn.name_eq]
  have hmissing : w'.nodes.filterMap Node.missingPack? = w.nodes.filterMap Node.missingPack? :=
    filterMap_eq_of_related h.nodes fun _ _ hn => by
      rw [Node.missingPack?, Node.missingPack?, hn.kind_eq, hn.id_eq, hn.name_eq]
  rw [Workflow.references, Workflow.references, hpacks, hagents, hsubflows, hmissing,
    h.parameterCodes_eq, h.boundSets_eq, h.rest]

end Retypes

end Structure

/-- **An unknown type is but a name.** Whichever unknown types of nodes are replaced by other
unknown ones, validation at either stage finds the same rules broken at the same nodes and edges, in
the same order, or fails in the same way; and the workflow refers to the same things. -/
theorem validate_of_retyped (outputTypes : List String) (w : Workflow) (nodes : List Node)
    (h : List.Forall₂ (Node.Retypes outputTypes) nodes w.nodes) (stage : Stage) :
    (Structure.validate outputTypes { w with nodes } stage).map
        (fun v => v.issues.map Issue.place) =
      (Structure.validate outputTypes w stage).map (fun v => v.issues.map Issue.place) ∧
    { w with nodes }.references = w.references := by
  have h : Structure.Retypes outputTypes { w with nodes } w := ⟨h, rfl⟩
  exact ⟨h.places_eq stage, h.references_eq⟩

namespace Structure.Sketch

/-- An approval that a node of some type follows. -/
def approved (type : String) : Workflow :=
  workflow .linear [node "t" "manual-trigger", node "ok" "approval", node "p" type]
    [edge "t" "ok", edge "ok" "p"]

end Structure.Sketch

open Structure.Sketch

/-- What follows an approval has to be of a type that is known; of which unknown type it is makes no
difference but in the message. -/
theorem validate_of_retyped_approved :
    List.Forall₂ (Node.Retypes outputTypes) (approved "pager").nodes (approved "sms").nodes ∧
    (Structure.validate outputTypes (approved "pager") .publish).map
        (fun v => v.issues.map Issue.place) =
      (Structure.validate outputTypes (approved "sms") .publish).map
        (fun v => v.issues.map Issue.place) ∧
    (approved "pager").references = (approved "sms").references ∧
    Structure.validate outputTypes (approved "sms") .save = .ok ⟨[(Issue.broken .approvalOutputs
      "Approval node ok may only lead to output nodes, found sms").atNode "ok"]⟩ := by
  have hsms : (node "p" "sms").IsUnknown outputTypes := by decide +kernel
  have hpager : (node "p" "pager").IsUnknown outputTypes := by decide +kernel
  have hnodes : List.Forall₂ (Node.Retypes outputTypes) (approved "pager").nodes
      (approved "sms").nodes :=
    .cons (.same _) (.cons (.same _) (.cons (.retyped hsms hpager) .nil))
  obtain ⟨hplaces, hrefs⟩ := validate_of_retyped outputTypes (approved "sms")
    (approved "pager").nodes hnodes .publish
  exact ⟨hnodes, hplaces, hrefs, by decide +kernel⟩

end WorkflowRelease
