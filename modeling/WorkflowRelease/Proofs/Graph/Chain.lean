import WorkflowRelease.Proofs.Structure.Sound

/-!
# Chains

A linear workflow is meant to be a chain: no cycle, and every node but the triggers behind a
trigger. The rule on linear workflows only counts the edges at each node. Main statement:
`chain_of_valid`, in a workflow that it accepts a node is behind a trigger or on a cycle, so that
the workflow is a chain iff its nodes have a topological order. That is not looked at in a linear
workflow: `looped_valid`, one with a loop beside the chain is accepted.
-/

namespace WorkflowRelease

open Structure.Sketch

/-- No node leads to itself, and a trigger leads to every other node. -/
structure Workflow.IsChain (w : Workflow) : Prop where
  acyclic : ∀ id, ¬w.Reaches id id
  behind : ∀ n ∈ w.nodes, n.kind ≠ .trigger → ∃ t ∈ w.nodes, t.kind = .trigger ∧ w.Reaches t.id n.id

namespace Structure.WellShaped

variable {w : Workflow}

/-- An edge starts at a node. -/
theorem exists_node (h : WellShaped w) {u v : String} (hl : w.Links u v) :
    ∃ n ∈ w.nodes, n.id = u :=
  Graph.mem_ids.1 (h.resolved.mem_ids hl).1

/-- There are no branches. -/
theorem rightUnique (h : WellShaped w) (hmode : w.mode = some .linear) :
    Relator.RightUnique w.Links := by
  intro u v v' hl hl'
  obtain ⟨n, hn, rfl⟩ := h.exists_node hl
  obtain ⟨e, he, hs, rfl⟩ := hl
  obtain ⟨e', he', hs', rfl⟩ := hl'
  have hmem : e ∈ w.edges.filter (·.source = n.id) := by simp [he, hs]
  have hmem' : e' ∈ w.edges.filter (·.source = n.id) := by simp [he', hs']
  obtain ⟨f, hf⟩ := List.length_eq_one_iff.1
    (Nat.le_antisymm (h.degrees hmode hn).1 (List.length_pos_of_mem hmem))
  rw [Graph.ofWorkflow] at hf
  rw [hf, List.mem_singleton] at hmem hmem'
  rw [hmem, hmem']

/-- A node that is no trigger has one behind it. -/
theorem exists_links (h : WellShaped w) (hmode : w.mode = some .linear) {n : Node}
    (hn : n ∈ w.nodes) (hkind : n.kind ≠ .trigger) : ∃ u, w.Links u n.id := by
  obtain ⟨e, he⟩ := List.length_eq_one_iff.1 ((h.degrees hmode hn).2 hkind)
  have hmem : e ∈ w.edges ∧ e.target = n.id := by
    have : e ∈ [e] := List.mem_singleton_self e
    rw [← he] at this
    simpa [Graph.ofWorkflow] using this
  exact ⟨e.source, e, hmem.1, rfl, hmem.2⟩

/-- Walking back from a node ends at a trigger, or comes round a cycle that the node is on. -/
theorem behind_or_cycle (h : WellShaped w) (hmode : w.mode = some .linear) {n : Node}
    (hn : n ∈ w.nodes) (hkind : n.kind ≠ .trigger) :
    (∃ t ∈ w.nodes, t.kind = .trigger ∧ w.Reaches t.id n.id) ∨ w.Reaches n.id n.id := by
  rw [or_iff_not_imp_left]
  intro hnone
  let leads (u : String) : Prop :=
    (∃ m ∈ w.nodes, m.id = u ∧ m.kind ≠ .trigger) ∧ Relation.ReflTransGen w.Links u n.id
  have hids : ∀ u, leads u → u ∈ (Graph.ofWorkflow w).ids := by
    rintro _ ⟨⟨m, hm, rfl, -⟩, -⟩
    exact Graph.mem_ids.2 ⟨m, hm, rfl⟩
  have hbehind : ∀ v, leads v → ∃ u, w.Links u v ∧ leads u := by
    rintro _ ⟨⟨m, hm, rfl, hkind⟩, hto⟩
    obtain ⟨u, hl⟩ := h.exists_links hmode hm hkind
    obtain ⟨t, ht, rfl⟩ := h.exists_node hl
    have hreach : w.Reaches t.id n.id := Relation.TransGen.head' hl hto
    exact ⟨t.id, hl, ⟨t, ht, rfl, fun hk => hnone ⟨t, ht, hk, hreach⟩⟩, hreach.to_reflTransGen⟩
  obtain ⟨u, ⟨-, hto⟩, hcycle⟩ := exists_cycle _ hids hbehind ⟨⟨n, hn, rfl, hkind⟩, .refl⟩
  -- the cycle cannot be left, so the node is on it
  have hback : Relation.ReflTransGen w.Links n.id u :=
    reaches_of_functional (h.rightUnique hmode) hcycle hto
  exact Relation.TransGen.trans_right hback (Relation.TransGen.trans_left hcycle hto)

theorem isChain_iff (h : WellShaped w) (hmode : w.mode = some .linear) :
    w.IsChain ↔ unordered (Graph.ofWorkflow w) = [] := by
  rw [Graph.unordered_eq_nil_iff (Graph.nodup_ids w), h.links_eq]
  constructor
  · exact fun hc => hc.acyclic
  · intro hacyclic
    refine ⟨hacyclic, fun n hn hkind => ?_⟩
    exact (h.behind_or_cycle hmode hn hkind).resolve_right (hacyclic n.id)

end Structure.WellShaped

/-- **An accepted linear workflow** is a chain iff its nodes have a topological order: its nodes
are behind a trigger or on a cycle. -/
theorem chain_of_valid {outputTypes : List String} {w : Workflow} {verdict : Verdict}
    (hmode : w.mode = some .linear) (h : Structure.validate outputTypes w .save = .ok verdict)
    (hvalid : verdict.valid = true) :
    (∀ n ∈ w.nodes, n.kind ≠ .trigger →
      (∃ t ∈ w.nodes, t.kind = .trigger ∧ w.Reaches t.id n.id) ∨ w.Reaches n.id n.id) ∧
    (w.IsChain ↔ Structure.unordered (Graph.ofWorkflow w) = []) := by
  have hshape := Structure.wellShaped_of_valid h hvalid
  exact ⟨fun n hn hkind => hshape.behind_or_cycle hmode hn hkind, hshape.isChain_iff hmode⟩

/-- A trigger and three nodes, with some edges. -/
def fourNodes (edges : List Edge) : Workflow :=
  workflow .linear [node "t" "manual-trigger", node "a" "data-fetch", node "b" "rule-eval",
    node "c" "notify"] edges

/-- One chain. -/
def straight : Workflow := fourNodes [edge "t" "a", edge "a" "b", edge "b" "c"]

theorem chain_of_valid_straight :
    straight.mode = some .linear ∧ Structure.validate outputTypes straight .save = .ok ⟨[]⟩ ∧
      straight.IsChain := by
  have hvalid : Structure.validate outputTypes straight .save = .ok ⟨[]⟩ := by decide +kernel
  have hchain := chain_of_valid rfl hvalid rfl
  exact ⟨rfl, hvalid, hchain.2.2 (by decide +kernel)⟩

/-- A short chain, and two nodes that lead to each other. -/
def looped : Workflow := fourNodes [edge "t" "a", edge "b" "c", edge "c" "b"]

/-- A cycle that no trigger leads to is accepted: each node on it has one edge to it and one from
it. -/
theorem looped_valid :
    looped.mode = some .linear ∧ Structure.validate outputTypes looped .save = .ok ⟨[]⟩ ∧
      looped.Reaches "b" "b" ∧
      ∀ t ∈ looped.nodes, t.kind = .trigger → ¬looped.Reaches t.id "b" := by
  refine ⟨rfl, by decide +kernel, ?_, ?_⟩
  · have hbc : looped.Links "b" "c" := by decide +kernel
    have hcb : looped.Links "c" "b" := by decide +kernel
    exact .tail (.single hbc) hcb
  · intro t ht hkind hreach
    -- all that leads to the cycle is on it
    have hstep : ∀ e ∈ looped.edges, e.target ∈ ["b", "c"] → e.source ∈ ["b", "c"] := by
      decide +kernel
    have hback : ∀ v, looped.Reaches t.id v → v ∈ ["b", "c"] → t.id ∈ ["b", "c"] := by
      intro v h
      induction h with
      | single hl =>
        obtain ⟨e, he, hs, rfl⟩ := hl
        exact hs ▸ hstep e he
      | tail _ hl ih =>
        obtain ⟨e, he, rfl, rfl⟩ := hl
        exact fun hv => ih (hstep e he hv)
    have htriggers : ∀ t ∈ looped.nodes, t.kind = .trigger → t.id ∉ ["b", "c"] := by
      decide +kernel
    exact htriggers t ht hkind (hback "b" hreach (by simp))

end WorkflowRelease
