import Mathlib.Data.List.Chain
import WorkflowRelease.Proofs.Graph.Order
import WorkflowRelease.Proofs.Structure.Sound

/-!
# Converging branches

Two paths with the same ends part when they are followed back from the end, since neither goes on
behind the start: there are no cycles. The node behind which they part has two predecessors, so it
has to be one that joins. Main statement: `joined_of_two_paths`.
-/

namespace WorkflowRelease

open Structure.Sketch

/-- Two lists that begin alike differ after some element, unless one of them goes on where the other
ends. -/
theorem exists_fork {α : Type} {p q : List α} (a : α) (hne : p ≠ q) :
    (∃ s, s ≠ [] ∧ a :: p = a :: q ++ s) ∨ (∃ s, s ≠ [] ∧ a :: q = a :: p ++ s) ∨
      ∃ b x y, x ≠ y ∧ [b, x] <:+: a :: p ∧ [b, y] <:+: a :: q := by
  induction p generalizing a q with
  | nil => exact .inr (.inl ⟨q, Ne.symm hne, rfl⟩)
  | cons x p ih =>
    cases q with
    | nil => exact .inl ⟨x :: p, by simp, rfl⟩
    | cons y q =>
      by_cases hxy : x = y
      · subst hxy
        have hpq : p ≠ q := fun h => hne (by rw [h])
        obtain ⟨s, hs, h⟩ | ⟨s, hs, h⟩ | ⟨b, u, v, huv, hu, hv⟩ := ih x hpq
        · exact .inl ⟨s, hs, congrArg (a :: ·) h⟩
        · exact .inr (.inl ⟨s, hs, congrArg (a :: ·) h⟩)
        · exact .inr (.inr ⟨b, u, v, huv, hu.trans (List.suffix_cons _ _).isInfix,
            hv.trans (List.suffix_cons _ _).isInfix⟩)
      · exact .inr (.inr ⟨a, x, y, hxy, (List.prefix_append [a, x] p).isInfix,
          (List.prefix_append [a, y] q).isInfix⟩)

namespace Workflow

variable {w : Workflow} {u v : String} {p q : List String}

/-- A path along edges, with its first and its last node. -/
structure IsPath (w : Workflow) (u v : String) (p : List String) : Prop where
  head : p.head? = some u
  last : p.getLast? = some v
  chain : p.IsChain w.Links

/-- Neighbours on a path are linked. -/
theorem IsPath.links (h : w.IsPath u v p) {x y : String} (hxy : [x, y] <:+: p) : w.Links x y := by
  have hpair : [x, y].IsChain w.Links := List.IsChain.infix h.chain hxy
  exact List.isChain_pair.1 hpair

/-- Without cycles a path does not come back to its start. -/
theorem IsPath.not_mem_of_append (hacyclic : ∀ id, ¬w.Reaches id id) {s t : List String}
    (h : w.IsPath u v (s ++ t)) (hs : s ≠ []) : u ∉ t := by
  intro hu
  obtain ⟨x, s, rfl⟩ := List.exists_cons_of_ne_nil hs
  obtain rfl : x = u := by simpa using h.head
  have hchain : (x :: s ++ t).IsChain w.Reaches := h.chain.imp fun _ _ => Relation.TransGen.single
  exact hacyclic x (hchain.rel_cons (List.mem_append_right s hu))

theorem IsPath.ne_start (hacyclic : ∀ id, ¬w.Reaches id id) (h : w.IsPath u v p) {x y : String}
    (hxy : [x, y] <:+: p) : y ≠ u := by
  obtain ⟨s, t, rfl⟩ := hxy
  have hsplit : w.IsPath u v ((s ++ [x]) ++ y :: t) := by simpa using h
  rintro rfl
  exact hsplit.not_mem_of_append hacyclic (by simp) List.mem_cons_self

/-- Two paths with the same ends go into some node from two others. -/
theorem IsPath.exists_meeting (hacyclic : ∀ id, ¬w.Reaches id id) (hp : w.IsPath u v p)
    (hq : w.IsPath u v q) (hne : p ≠ q) :
    ∃ b x y, x ≠ y ∧ [x, b] <:+: p ∧ [y, b] <:+: q := by
  -- what goes on before the start would make a cycle
  have hstart : ∀ {p q}, w.IsPath u v p → w.IsPath u v q → ∀ s, s ≠ [] → p ≠ s ++ q := by
    rintro p q hp hq s hs rfl
    exact hp.not_mem_of_append hacyclic hs (List.mem_of_head? hq.head)
  obtain ⟨p', hp'⟩ : ∃ p', p.reverse = v :: p' := List.head?_eq_some_iff.1 (by simpa using hp.last)
  obtain ⟨q', hq'⟩ : ∃ q', q.reverse = v :: q' := List.head?_eq_some_iff.1 (by simpa using hq.last)
  have hne' : p' ≠ q' := by
    rintro rfl
    exact hne (List.reverse_injective (hp'.trans hq'.symm))
  rcases exists_fork v hne' with ⟨s, hs, h⟩ | ⟨s, hs, h⟩ | ⟨b, x, y, hxy, hx, hy⟩
  · rw [← hp', ← hq', ← List.reverse_inj, List.reverse_append, List.reverse_reverse,
      List.reverse_reverse] at h
    exact absurd h (hstart hp hq _ (by simpa using hs))
  · rw [← hp', ← hq', ← List.reverse_inj, List.reverse_append, List.reverse_reverse,
      List.reverse_reverse] at h
    exact absurd h (hstart hq hp _ (by simpa using hs))
  · rw [← hp', ← List.reverse_infix, List.reverse_reverse] at hx
    rw [← hq', ← List.reverse_infix, List.reverse_reverse] at hy
    exact ⟨b, x, y, hxy, hx, hy⟩

end Workflow

/-- **Converging branches meet at a join**: where two paths with the same ends differ, they go into
a node that joins from two others. -/
theorem joined_of_two_paths {outputTypes : List String} {w : Workflow} {verdict : Verdict}
    (hmode : w.mode = some .dag) (h : Structure.validate outputTypes w .save = .ok verdict)
    (hvalid : verdict.valid = true) {u v : String} {p q : List String} (hp : w.IsPath u v p)
    (hq : w.IsPath u v q) (hne : p ≠ q) :
    ∃ n ∈ w.nodes, n.id ≠ u ∧ (n.type = "join" ∨ n.type = "decision-merge") ∧
      ∃ x y, x ≠ y ∧ [x, n.id] <:+: p ∧ [y, n.id] <:+: q := by
  have hshape := Structure.wellShaped_of_valid h hvalid
  have hacyclic := hshape.not_reaches_self hmode
  obtain ⟨b, x, y, hxy, hx, hy⟩ := hp.exists_meeting hacyclic hq hne
  obtain ⟨n, hn, rfl⟩ := Graph.mem_ids.1 (hshape.resolved.mem_ids (hp.links hx)).2
  have htype : n.type ∈ Structure.joinTypes :=
    hshape.mem_joinTypes hmode hn hxy (hp.links hx) (hq.links hy)
  exact ⟨n, hn, hp.ne_start hacyclic hx, by simpa [Structure.joinTypes] using htype, x, y, hxy, hx,
    hy⟩

/-- Two branches from a trigger to a join. -/
def diamond : Workflow :=
  workflow .dag [node "t" "manual-trigger", node "a" "data-fetch", node "b" "rule-eval",
      node "j" "join", node "n" "notify"]
    [edge "t" "a", edge "t" "b", edge "a" "j", edge "b" "j", edge "j" "n"]

theorem joined_of_two_paths_diamond :
    diamond.mode = some .dag ∧
      Structure.validate outputTypes diamond .save = .ok ⟨[]⟩ ∧
      diamond.IsPath "t" "n" ["t", "a", "j", "n"] ∧ diamond.IsPath "t" "n" ["t", "b", "j", "n"] ∧
      ∃ n ∈ diamond.nodes, n.id ≠ "t" ∧ (n.type = "join" ∨ n.type = "decision-merge") ∧
        ∃ x y, x ≠ y ∧ [x, n.id] <:+: ["t", "a", "j", "n"] ∧
          [y, n.id] <:+: ["t", "b", "j", "n"] := by
  have hvalid : Structure.validate outputTypes diamond .save = .ok ⟨[]⟩ := by decide +kernel
  have hp : diamond.IsPath "t" "n" ["t", "a", "j", "n"] := ⟨rfl, rfl, by decide +kernel⟩
  have hq : diamond.IsPath "t" "n" ["t", "b", "j", "n"] := ⟨rfl, rfl, by decide +kernel⟩
  exact ⟨rfl, hvalid, hp, hq, joined_of_two_paths rfl hvalid rfl hp hq (by decide)⟩

end WorkflowRelease
