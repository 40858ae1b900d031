import WorkflowRelease.Proofs.Graph.Walk
import WorkflowRelease.Workflow.Topology

/-!
# Reachability

The search finds what edges lead to. What it finds comes from its queue (`exists_of_mem_visit`), and
with everything that it finds it finds the successors (`Closed.visit`). Main statement:
`mem_reachable`, the nodes that are found are those at the end of a walk.
-/

namespace WorkflowRelease.Graph

variable {g : Graph} {u v : String}

theorem mem_successors : v ∈ g.successors u ↔ g.Links u v := by
  rw [Links, ← List.count_pos_iff, count_successors, List.count_pos_iff]

/-- Every node that is found comes from one in the queue. -/
theorem exists_of_mem_visit {unseen queue : List String} (h : v ∈ g.visit unseen queue) :
    ∃ id ∈ queue, Relation.ReflTransGen g.Links id v := by
  induction unseen, queue using visit.induct g with
  | case1 =>
    rw [visit] at h
    cases h
  | case2 unseen id queue hid ih =>
    rw [visit, dif_pos hid, List.mem_cons] at h
    rcases h with rfl | h
    · exact ⟨v, List.mem_cons_self, .refl⟩
    · obtain ⟨k, hk, hto⟩ := ih h
      rcases List.mem_append.1 hk with hk | hk
      · exact ⟨k, List.mem_cons_of_mem _ hk, hto⟩
      · exact ⟨id, List.mem_cons_self, .head (mem_successors.1 hk) hto⟩
  | case3 unseen id queue hid ih =>
    rw [visit, dif_neg hid] at h
    obtain ⟨k, hk, hto⟩ := ih h
    exact ⟨k, List.mem_cons_of_mem _ hk, hto⟩

/-- What is found was unseen, and is found once. -/
theorem nodup_visit {unseen : List String} (hn : unseen.Nodup) (queue : List String) :
    (g.visit unseen queue).Nodup ∧ ∀ id ∈ g.visit unseen queue, id ∈ unseen := by
  induction unseen, queue using visit.induct g with
  | case1 unseen =>
    rw [visit]
    exact ⟨List.nodup_nil, nofun⟩
  | case2 unseen id queue hid ih =>
    rw [visit, dif_pos hid]
    obtain ⟨hnodup, hnew⟩ := ih (hn.erase id)
    refine ⟨List.nodup_cons.2 ⟨fun hm => hn.not_mem_erase (hnew id hm), hnodup⟩, ?_⟩
    rintro k (_ | ⟨_, hk⟩)
    · exact hid
    · exact List.mem_of_mem_erase (hnew k hk)
  | case3 unseen id queue hid ih =>
    rw [visit, dif_neg hid]
    exact ih hn

/-- What is in the queue is found or was seen before, and so are the successors of what is found. -/
structure Closed (g : Graph) (unseen queue found : List String) : Prop where
  queue : ∀ id ∈ queue, id ∈ found ∨ id ∉ unseen
  successors : ∀ id ∈ found, ∀ k, g.Links id k → k ∈ found ∨ k ∉ unseen

theorem Closed.visit {unseen : List String} (hn : unseen.Nodup) (queue : List String) :
    g.Closed unseen queue (g.visit unseen queue) := by
  induction unseen, queue using visit.induct g with
  | case1 unseen =>
    rw [Graph.visit]
    exact ⟨nofun, nofun⟩
  | case2 unseen id queue hid ih =>
    have hrest := ih (hn.erase id)
    rw [Graph.visit, dif_pos hid]
    -- all but the node itself are unseen as before
    have hseen : ∀ k, k ∈ g.visit (unseen.erase id) (queue ++ g.successors id) ∨
        k ∉ unseen.erase id →
        k ∈ id :: g.visit (unseen.erase id) (queue ++ g.successors id) ∨ k ∉ unseen := by
      intro k hk
      rw [hn.mem_erase_iff, not_and_or, not_not] at hk
      rcases hk with hk | rfl | hk
      · exact .inl (List.mem_cons_of_mem _ hk)
      · exact .inl List.mem_cons_self
      · exact .inr hk
    constructor
    · intro k hk
      rcases List.mem_cons.1 hk with rfl | hk
      · exact .inl List.mem_cons_self
      · exact hseen k (hrest.queue k (List.mem_append_left _ hk))
    · intro k hk l hl
      rcases List.mem_cons.1 hk with rfl | hk
      · exact hseen l (hrest.queue l (List.mem_append_right _ (mem_successors.2 hl)))
      · exact hseen l (hrest.successors k hk l hl)
  | case3 unseen id queue hid ih =>
    have hrest := ih hn
    rw [Graph.visit, dif_neg hid]
    refine ⟨fun k hk => ?_, hrest.successors⟩
    rcases List.mem_cons.1 hk with rfl | hk
    · exact .inr hid
    · exact hrest.queue k hk

theorem nodup_reachable (hn : g.ids.Nodup) (start : String) : (g.reachable start).Nodup :=
  (nodup_visit hn _).1

/-- **The search** finds the nodes at the end of a walk of one or more edges. -/
theorem mem_reachable (hn : g.ids.Nodup) :
    v ∈ g.reachable u ↔ Relation.TransGen g.Links u v := by
  constructor
  · intro h
    obtain ⟨id, hid, hto⟩ := exists_of_mem_visit h
    exact .head' (mem_successors.1 hid) hto
  · intro h
    have hclosed := Closed.visit (g := g) hn (g.successors u)
    have hnode : ∀ {id k}, g.Links id k → ¬ k ∉ g.ids := fun hl =>
      not_not.2 (mem_ids_of_mem_successors (mem_successors.2 hl)).2
    induction h with
    | single hl => exact (hclosed.queue _ (mem_successors.2 hl)).resolve_right (hnode hl)
    | tail _ hl ih => exact (hclosed.successors _ ih _ hl).resolve_right (hnode hl)

end WorkflowRelease.Graph
