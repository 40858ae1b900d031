import Mathlib.Data.Set.Finite.Basic
import Mathlib.Logic.Relation
import Mathlib.Order.WellFounded
import WorkflowRelease.Workflow.Graph

/-!
# Walks

Which nodes lead to which along edges. The links of a graph are the edges of its workflow between
nodes (`links_ofWorkflow`). Main statements: `exists_cycle`, walking back for ever among
finitely many nodes goes round a cycle, and `reaches_of_functional`, who cannot branch cannot leave
a cycle.
-/

namespace WorkflowRelease

/-- An edge between nodes leads from the one to the other. -/
def Graph.Links (g : Graph) (u v : String) : Prop := u ∈ g.predecessors v

namespace Workflow

/-- An edge leads from the one to the other. -/
def Links (w : Workflow) (u v : String) : Prop := ∃ e ∈ w.edges, e.source = u ∧ e.target = v

instance (w : Workflow) (u v : String) : Decidable (w.Links u v) :=
  inferInstanceAs (Decidable (∃ e ∈ w.edges, e.source = u ∧ e.target = v))

/-- A walk along one or more edges leads from the one to the other. -/
abbrev Reaches (w : Workflow) : String → String → Prop := Relation.TransGen w.Links

/-- An edge leads from the one to the other, and both are nodes. -/
def Connects (w : Workflow) (u v : String) : Prop :=
  w.Links u v ∧ (∃ n ∈ w.nodes, n.id = u) ∧ ∃ n ∈ w.nodes, n.id = v

theorem links_ofWorkflow (w : Workflow) : (Graph.ofWorkflow w).Links = w.Connects := by
  funext u v
  simp only [Graph.Links, Graph.predecessors, List.mem_map, List.mem_filter, Bool.and_eq_true,
    decide_eq_true_eq, Graph.resolves_iff, Graph.mem_ids, eq_iff_iff]
  constructor
  · rintro ⟨e, ⟨he, rfl, hsource, htarget⟩, rfl⟩
    exact ⟨⟨e, he, rfl, rfl⟩, hsource, htarget⟩
  · rintro ⟨⟨e, he, rfl, rfl⟩, hsource, htarget⟩
    exact ⟨e, ⟨he, rfl, hsource, htarget⟩, rfl⟩

/-- Both ends of each edge are nodes. -/
def Resolved (w : Workflow) : Prop := ∀ e ∈ w.edges, (Graph.ofWorkflow w).resolves e = true

theorem Resolved.mem_ids {w : Workflow} (h : w.Resolved) {u v : String} (hl : w.Links u v) :
    u ∈ (Graph.ofWorkflow w).ids ∧ v ∈ (Graph.ofWorkflow w).ids := by
  obtain ⟨e, he, rfl, rfl⟩ := hl
  exact Graph.resolves_iff.1 (h e he)

theorem Resolved.links_iff {w : Workflow} (h : w.Resolved) {u v : String} :
    (Graph.ofWorkflow w).Links u v ↔ w.Links u v := by
  rw [links_ofWorkflow]
  refine ⟨fun hl => hl.1, fun hl => ?_⟩
  obtain ⟨hu, hv⟩ := h.mem_ids hl
  exact ⟨hl, Graph.mem_ids.1 hu, Graph.mem_ids.1 hv⟩

end Workflow

/-! ## Cycles -/

/-- If each of finitely many nodes comes behind another one of them, some are on a cycle. -/
theorem exists_cycle {r : String → String → Prop} {p : String → Prop} (ids : List String)
    (hids : ∀ v, p v → v ∈ ids) (hbehind : ∀ v, p v → ∃ u, r u v ∧ p u) {v : String} (hv : p v) :
    ∃ u, p u ∧ Relation.TransGen r u u := by
  by_contra hnone
  -- otherwise walks are a strict order, with a least node
  let before : {u // p u} → {u // p u} → Prop := fun a b => Relation.TransGen r a b
  have : Finite {u // p u} := (ids.finite_toSet.subset hids).to_subtype
  have : IsTrans _ before := ⟨fun _ _ _ h h' => Relation.TransGen.trans h h'⟩
  have : Std.Irrefl before := ⟨fun a ha => hnone ⟨a, a.2, ha⟩⟩
  obtain ⟨⟨u, hu⟩, -, hleast⟩ :=
    (Finite.wellFounded_of_trans_of_irrefl before).has_min Set.univ ⟨⟨v, hv⟩, trivial⟩
  obtain ⟨t, ht, hpt⟩ := hbehind u hu
  exact hleast ⟨t, hpt⟩ trivial (Relation.TransGen.single ht)

/-- Where no node has two successors, all that a node on a cycle leads to leads back. -/
theorem reaches_of_functional {r : String → String → Prop} (hr : Relator.RightUnique r)
    {u v : String} (hu : Relation.TransGen r u u) (huv : Relation.ReflTransGen r u v) :
    Relation.ReflTransGen r v u := by
  induction huv with
  | refl => exact .refl
  | tail _ hxy ih =>
    obtain ⟨z, hxz, hzu⟩ := Relation.TransGen.head'_iff.1 (Relation.TransGen.trans_right ih hu)
    rw [hr hxy hxz]
    exact hzu

end WorkflowRelease
