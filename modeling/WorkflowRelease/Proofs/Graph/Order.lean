import WorkflowRelease.Proofs.Graph.Walk
import WorkflowRelease.Structure.Shape

/-!
# Topological orders

Taking out free nodes again and again gives an order in which the sources of all edges to a node
come before it, and leaves out no node but those to which an edge leads that has been left out
itself. Main statements: `mem_topologicalOrder` and `mem_unordered_iff`, a node is left out iff it
is on a cycle or behind one, and `unordered_eq_nil_iff`, no node is left out iff there is no cycle.
-/

namespace WorkflowRelease.Graph

variable {g : Graph}

/-! ## Closing predecessors -/

/-- What stays open of some predecessors when some of them are closed. -/
def rest (closed n : Nat) : Option Nat := if n ≤ closed then none else some (n - closed)

theorem rest_zero {n : Nat} (h : 0 < n) : rest 0 n = some n := by
  rw [rest, if_neg (by omega), Nat.sub_zero]

theorem bind_rest_one (closed n : Nat) : (rest 1 n).bind (rest closed) = rest (closed + 1) n := by
  unfold rest
  by_cases h : n ≤ 1
  · rw [if_pos h, if_pos (by omega), Option.bind_none]
  · by_cases h' : n - 1 ≤ closed
    · rw [if_neg h, Option.bind_some, if_pos h', if_pos (by omega)]
    · rw [if_neg h, Option.bind_some, if_neg h', if_neg (by omega)]
      congr 1
      omega

theorem keys_close (id : String) (waiting : Waiting) :
    ((close id waiting).1.map (·.1)).Sublist (waiting.map (·.1)) := by
  induction waiting with
  | nil => exact List.Sublist.refl _
  | cons e waiting ih =>
    obtain ⟨k, n⟩ := e
    rw [close]
    split
    · split
      · exact List.sublist_cons_self _ _
      · exact List.Sublist.refl _
    · exact ih.cons_cons k

theorem lookup_eq_none {waiting : Waiting} {k : String} (h : k ∉ waiting.map (·.1)) :
    waiting.lookup k = none := by
  rw [List.lookup_eq_none_iff]
  intro e he
  rw [bne_iff_ne]
  rintro rfl
  exact h (List.mem_map_of_mem he)

/-- Closing a predecessor of a node leaves the others as they are. -/
theorem lookup_close {waiting : Waiting} (h : (waiting.map (·.1)).Nodup) (id k : String) :
    (close id waiting).1.lookup k =
      if k = id then (waiting.lookup k).bind (rest 1) else waiting.lookup k := by
  induction waiting with
  | nil => simp [close]
  | cons e waiting ih =>
    obtain ⟨l, n⟩ := e
    obtain ⟨hl, hrest⟩ := List.nodup_cons.1 h
    rw [close]
    by_cases hid : l = id
    · subst hid
      rw [if_pos rfl]
      by_cases hk : k = l
      · subst hk
        by_cases hn : n ≤ 1
        · simpa [hn, rest] using lookup_eq_none hl
        · simp [hn, rest]
      · by_cases hn : n ≤ 1
        · simp [hn, hk, List.lookup_cons, beq_eq_false_iff_ne.2 hk]
        · simp [hn, hk, List.lookup_cons, beq_eq_false_iff_ne.2 hk]
    · rw [if_neg hid]
      by_cases hk : k = l
      · subst hk
        simp [hid]
      · simp only [List.lookup_cons, beq_eq_false_iff_ne.2 hk]
        exact ih hrest

/-- A node becomes free when its last predecessor is closed. -/
theorem freed_close (id : String) (waiting : Waiting) :
    (close id waiting).2 = true ↔ ∃ n, waiting.lookup id = some n ∧ n ≤ 1 := by
  induction waiting with
  | nil => simp [close]
  | cons e waiting ih =>
    obtain ⟨k, n⟩ := e
    rw [close]
    by_cases hk : k = id
    · subst hk
      by_cases hn : n ≤ 1 <;> simp [hn]
    · simpa [hk, List.lookup_cons, beq_eq_false_iff_ne.2 (Ne.symm hk)] using ih

/-- The keys come once, and no number is zero. -/
structure Waiting.Proper (waiting : Waiting) : Prop where
  nodup : (waiting.map (·.1)).Nodup
  pos : ∀ k n, waiting.lookup k = some n → 0 < n

theorem Waiting.Proper.close {waiting : Waiting} (h : waiting.Proper) (id : String) :
    Waiting.Proper (close id waiting).1 where
  nodup := h.nodup.sublist (keys_close id waiting)
  pos k n hk := by
    rw [lookup_close h.nodup] at hk
    split at hk
    · obtain ⟨m, -, hm⟩ := Option.bind_eq_some_iff.1 hk
      unfold rest at hm
      split at hm
      · cases hm
      · cases hm
        omega
    · exact h.pos k n hk

theorem Waiting.Proper.closeAll {waiting : Waiting} (h : waiting.Proper) (ids : List String) :
    Waiting.Proper (closeAll ids waiting).1 := by
  induction ids generalizing waiting with
  | nil => exact h
  | cons id ids ih => exact ih (h.close id)

/-- Each closing of a predecessor of a node counts. -/
theorem lookup_closeAll {waiting : Waiting} (h : waiting.Proper) (ids : List String)
    (k : String) :
    (closeAll ids waiting).1.lookup k = (waiting.lookup k).bind (rest (ids.count k)) := by
  induction ids generalizing waiting with
  | nil =>
    cases hk : waiting.lookup k with
    | none => simpa [closeAll] using hk
    | some n => simpa [closeAll, rest_zero (h.pos k n hk)] using hk
  | cons id ids ih =>
    rw [closeAll, ih (h.close id), lookup_close h.nodup]
    by_cases hk : k = id
    · subst hk
      rw [if_pos rfl, List.count_cons_self, Option.bind_assoc]
      exact congrArg _ (funext (bind_rest_one _))
    · rw [if_neg hk, List.count_cons_of_ne (Ne.symm hk)]

theorem mem_freed_cons {id k : String} {ids : List String} {waiting : Waiting} :
    k ∈ (closeAll (id :: ids) waiting).2 ↔
      k = id ∧ (close id waiting).2 = true ∨ k ∈ (closeAll ids (close id waiting).1).2 := by
  rw [closeAll]
  dsimp only
  split
  · rename_i hfreed
    simp [hfreed]
  · rename_i hfreed
    simp [hfreed]

/-- The nodes that become free are those whose last predecessors are closed. -/
theorem mem_freed {waiting : Waiting} (h : waiting.Proper) (ids : List String) (k : String) :
    k ∈ (closeAll ids waiting).2 ↔ ∃ n, waiting.lookup k = some n ∧ n ≤ ids.count k := by
  induction ids generalizing waiting with
  | nil =>
    simp only [closeAll, List.not_mem_nil, List.count_nil, false_iff]
    rintro ⟨n, hn, hle⟩
    have := h.pos k n hn
    omega
  | cons id ids ih =>
    rw [mem_freed_cons, ih (h.close id), lookup_close h.nodup]
    by_cases hk : k = id
    · subst hk
      rw [freed_close, if_pos rfl, List.count_cons_self]
      cases waiting.lookup k with
      | none => simp
      | some n =>
        by_cases hle : n ≤ 1
        · have hcount : n ≤ ids.count k + 1 := by omega
          simp [rest, hle, hcount]
        · simp [rest, hle]
    · simp [hk, List.count_cons_of_ne (Ne.symm hk)]

theorem nodup_freed {waiting : Waiting} (h : waiting.Proper) (ids : List String) :
    (closeAll ids waiting).2.Nodup := by
  induction ids generalizing waiting with
  | nil => exact List.nodup_nil
  | cons id ids ih =>
    have hrest := ih (h.close id)
    rw [closeAll]
    dsimp only
    split
    · rename_i hfreed
      refine List.nodup_cons.2 ⟨?_, hrest⟩
      rw [mem_freed (h.close id), lookup_close h.nodup, if_pos rfl]
      rintro ⟨m, hm, -⟩
      obtain ⟨n, hn, hle⟩ := (freed_close id waiting).1 hfreed
      simp [hn, rest, hle] at hm
    · exact hrest

/-! ## Taking nodes out -/

/-- The number of edges to a node from nodes that are not done. -/
def openCount (g : Graph) (done : List String) (id : String) : Nat :=
  (g.predecessors id).countP (· ∉ done)

theorem countP_not_mem_cons {done ids : List String} {id : String} (h : id ∉ done) :
    ids.countP (· ∉ done) = ids.countP (· ∉ id :: done) + ids.count id := by
  induction ids with
  | nil => rfl
  | cons k ids ih =>
    by_cases hk : k = id
    · subst hk
      simp only [List.countP_cons, List.count_cons_self, ih, h, List.mem_cons_self,
        not_false_eq_true, not_true_eq_false, decide_true, decide_false, if_true,
        Bool.false_eq_true, if_false]
      omega
    · simp only [List.countP_cons, List.count_cons_of_ne hk, ih, List.mem_cons, hk, false_or]
      omega

theorem openCount_eq {done : List String} {id : String} (h : id ∉ done) (k : String) :
    g.openCount done k = g.openCount (id :: done) k + (g.successors id).count k := by
  rw [count_successors]
  exact countP_not_mem_cons h

theorem openCount_eq_zero_iff {done : List String} {id : String} :
    g.openCount done id = 0 ↔ ∀ u, g.Links u id → u ∈ done := by
  simp [openCount, List.countP_eq_zero, Links]

/-- Nodes that are not done wait, free ones in the queue and the others with the number of their
open predecessors. -/
structure Releasing (g : Graph) (done : List String) (waiting : Waiting) (queue : List String) :
    Prop where
  free : ∀ id ∈ queue, g.openCount done id = 0
  new : ∀ id ∈ queue, id ∉ done
  nodup : queue.Nodup
  proper : waiting.Proper
  waits : ∀ id n, waiting.lookup id = some n →
    id ∉ done ∧ id ∉ queue ∧ n = g.openCount done id
  all : ∀ id ∈ g.ids, id ∈ done ∨ id ∈ queue ∨ ∃ n, waiting.lookup id = some n

/-- A waiting node becomes free when a node is taken out that leads to it as often as it is open. -/
theorem Releasing.mem_freed_iff {done queue : List String} {waiting : Waiting}
    (h : g.Releasing done waiting queue) {id k : String} (hid : id ∉ done) :
    k ∈ (closeAll (g.successors id) waiting).2 ↔
      (∃ n, waiting.lookup k = some n) ∧ g.openCount (id :: done) k = 0 := by
  have hcount := g.openCount_eq hid k
  rw [mem_freed h.proper]
  constructor
  · rintro ⟨n, hn, hle⟩
    obtain ⟨-, -, rfl⟩ := h.waits k n hn
    exact ⟨⟨_, hn⟩, by omega⟩
  · rintro ⟨⟨n, hn⟩, hzero⟩
    obtain ⟨-, -, rfl⟩ := h.waits k n hn
    exact ⟨_, hn, by omega⟩

/-- The others go on waiting. -/
theorem Releasing.lookup_closeAll_iff {done queue : List String} {waiting : Waiting}
    (h : g.Releasing done waiting queue) {id k : String} (hid : id ∉ done) {m : Nat} :
    (closeAll (g.successors id) waiting).1.lookup k = some m ↔
      (∃ n, waiting.lookup k = some n) ∧ m = g.openCount (id :: done) k ∧ m ≠ 0 := by
  have hcount := g.openCount_eq hid k
  rw [lookup_closeAll h.proper, Option.bind_eq_some_iff]
  constructor
  · rintro ⟨n, hn, hm⟩
    obtain ⟨-, -, rfl⟩ := h.waits k n hn
    unfold rest at hm
    split at hm
    · cases hm
    · cases hm
      exact ⟨⟨_, hn⟩, by omega, by omega⟩
  · rintro ⟨⟨n, hn⟩, rfl, hpos⟩
    obtain ⟨-, -, rfl⟩ := h.waits k n hn
    refine ⟨_, hn, ?_⟩
    rw [rest, if_neg (by omega)]
    congr 1
    omega

theorem Releasing.step {done queue : List String} {waiting : Waiting} {id : String}
    (h : g.Releasing done waiting (id :: queue)) :
    g.Releasing (id :: done) (closeAll (g.successors id) waiting).1
      (queue ++ (closeAll (g.successors id) waiting).2) where
  free k hk := by
    have hid := h.new id List.mem_cons_self
    have hcount := g.openCount_eq hid k
    rcases List.mem_append.1 hk with hk | hk
    · have := h.free k (List.mem_cons_of_mem _ hk)
      omega
    · exact ((h.mem_freed_iff hid).1 hk).2
  new k hk := by
    rcases List.mem_append.1 hk with hk | hk
    · have hne : k ≠ id := fun heq => (List.nodup_cons.1 h.nodup).1 (heq ▸ hk)
      simpa [hne] using h.new k (List.mem_cons_of_mem _ hk)
    · obtain ⟨⟨n, hn⟩, -⟩ := (h.mem_freed_iff (h.new id List.mem_cons_self)).1 hk
      obtain ⟨hdone, hnew, -⟩ := h.waits k n hn
      have hne : k ≠ id := fun heq => hnew (heq ▸ List.mem_cons_self)
      simpa [hne] using hdone
  nodup := by
    refine List.nodup_append.2 ⟨(List.nodup_cons.1 h.nodup).2, nodup_freed h.proper _, ?_⟩
    rintro k hk _ hk' rfl
    obtain ⟨⟨n, hn⟩, -⟩ := (h.mem_freed_iff (h.new id List.mem_cons_self)).1 hk'
    obtain ⟨-, hnew, -⟩ := h.waits k n hn
    exact hnew (List.mem_cons_of_mem _ hk)
  proper := h.proper.closeAll _
  waits k m hm := by
    have hid := h.new id List.mem_cons_self
    obtain ⟨⟨n, hn⟩, hcount, hpos⟩ := (h.lookup_closeAll_iff hid).1 hm
    obtain ⟨hdone, hnew, -⟩ := h.waits k n hn
    rw [List.mem_cons, not_or] at hnew
    refine ⟨by simp [hnew.1, hdone], ?_, hcount⟩
    rw [List.mem_append, not_or, h.mem_freed_iff hid]
    exact ⟨hnew.2, fun hfreed => hpos (hcount.trans hfreed.2)⟩
  all k hk := by
    have hid := h.new id List.mem_cons_self
    rcases h.all k hk with hk | hk | hwait
    · exact .inl (List.mem_cons_of_mem _ hk)
    · rcases List.mem_cons.1 hk with rfl | hk
      · exact .inl List.mem_cons_self
      · exact .inr (.inl (List.mem_append_left _ hk))
    · by_cases hzero : g.openCount (id :: done) k = 0
      · have hfreed := (h.mem_freed_iff hid).2 ⟨hwait, hzero⟩
        exact .inr (.inl (List.mem_append_right _ hfreed))
      · exact .inr (.inr ⟨_, (h.lookup_closeAll_iff hid).2 ⟨hwait, rfl, hzero⟩⟩)

/-- After what is done, each of the nodes comes behind all that an edge leads to it from. -/
def InOrder (g : Graph) (done : List String) : List String → Prop
  | [] => True
  | id :: ids => (∀ u, g.Links u id → u ∈ done) ∧ g.InOrder (id :: done) ids

theorem Releasing.inOrder {done queue : List String} {waiting : Waiting}
    (h : g.Releasing done waiting queue) : g.InOrder done (g.release waiting queue) := by
  induction waiting, queue using release.induct g generalizing done with
  | case1 waiting =>
    rw [release]
    trivial
  | case2 waiting id queue ih =>
    rw [release]
    exact ⟨openCount_eq_zero_iff.1 (h.free id List.mem_cons_self), ih h.step⟩

/-- A node that is not taken out is behind another one that is not. -/
theorem Releasing.exists_links {done queue : List String} {waiting : Waiting}
    (h : g.Releasing done waiting queue) {id : String} (hid : id ∈ g.ids) (hdone : id ∉ done)
    (hleft : id ∉ g.release waiting queue) :
    ∃ u, g.Links u id ∧ u ∉ done ∧ u ∉ g.release waiting queue := by
  induction waiting, queue using release.induct g generalizing done with
  | case1 waiting =>
    rw [release] at hleft ⊢
    rcases h.all id hid with hk | hk | ⟨n, hn⟩
    · exact absurd hk hdone
    · cases hk
    · obtain ⟨-, -, rfl⟩ := h.waits id n hn
      have hpos := h.proper.pos id _ hn
      have hopen : ¬∀ u, g.Links u id → u ∈ done := by
        rw [← openCount_eq_zero_iff]
        omega
      simpa using hopen
  | case2 waiting k queue ih =>
    rw [release, List.mem_cons, not_or] at hleft
    obtain ⟨u, hu, hnew, hleft⟩ := ih h.step (by simp [hleft.1, hdone]) hleft.2
    rw [List.mem_cons, not_or] at hnew
    refine ⟨u, hu, hnew.2, ?_⟩
    rw [release, List.mem_cons, not_or]
    exact ⟨hnew.1, hleft⟩

/-- What is taken out was not done before, and is taken out once. -/
theorem Releasing.nodup_release {done queue : List String} {waiting : Waiting}
    (h : g.Releasing done waiting queue) :
    (g.release waiting queue).Nodup ∧ ∀ id ∈ g.release waiting queue, id ∉ done := by
  induction waiting, queue using release.induct g generalizing done with
  | case1 waiting =>
    rw [release]
    exact ⟨List.nodup_nil, nofun⟩
  | case2 waiting id queue ih =>
    rw [release]
    obtain ⟨hnodup, hnew⟩ := ih h.step
    refine ⟨List.nodup_cons.2 ⟨fun hm => hnew id hm List.mem_cons_self, hnodup⟩, ?_⟩
    rintro k (_ | ⟨_, hk⟩)
    · exact h.new id List.mem_cons_self
    · exact fun hdone => hnew k hk (List.mem_cons_of_mem _ hdone)

theorem mem_of_mem_freed {id : String} {ids : List String} {waiting : Waiting}
    (h : id ∈ (closeAll ids waiting).2) : id ∈ ids := by
  induction ids generalizing waiting with
  | nil => cases h
  | cons k ids ih =>
    rcases mem_freed_cons.1 h with ⟨rfl, -⟩ | h
    · exact List.mem_cons_self
    · exact List.mem_cons_of_mem _ (ih h)

/-- Nothing but nodes is taken out. -/
theorem mem_ids_of_mem_release {waiting : Waiting} {queue : List String}
    (hqueue : ∀ id ∈ queue, id ∈ g.ids) {id : String} (h : id ∈ g.release waiting queue) :
    id ∈ g.ids := by
  induction waiting, queue using release.induct g with
  | case1 waiting =>
    rw [release] at h
    cases h
  | case2 waiting k queue ih =>
    rw [release, List.mem_cons] at h
    rcases h with rfl | h
    · exact hqueue id List.mem_cons_self
    · refine ih (fun l hl => ?_) h
      rcases List.mem_append.1 hl with hl | hl
      · exact hqueue l (List.mem_cons_of_mem _ hl)
      · exact (mem_ids_of_mem_successors (mem_of_mem_freed hl)).2

/-! ## The order -/

theorem lookup_eq_some_iff {waiting : Waiting} (h : (waiting.map (·.1)).Nodup) {id : String}
    {n : Nat} : waiting.lookup id = some n ↔ (id, n) ∈ waiting := by
  induction waiting with
  | nil => simp
  | cons e waiting ih =>
    obtain ⟨k, m⟩ := e
    obtain ⟨hk, hrest⟩ := List.nodup_cons.1 h
    by_cases hid : id = k
    · subst hid
      have hnot : (id, n) ∉ waiting := fun hm => hk (List.mem_map.2 ⟨_, hm, rfl⟩)
      simp [hnot, eq_comm]
    · simp [List.lookup_cons, beq_eq_false_iff_ne.2 hid, hid, ih hrest]

/-- The nodes with the numbers of their predecessors. -/
def degrees (g : Graph) : Waiting := g.ids.map fun id => (id, (g.predecessors id).length)

theorem mem_degrees {id : String} {n : Nat} :
    (id, n) ∈ g.degrees ↔ id ∈ g.ids ∧ n = g.openCount [] id := by
  simp [degrees, openCount, eq_comm]

theorem nodup_degrees (hn : g.ids.Nodup) (p : String × Nat → Bool) :
    ((g.degrees.filter p).map (·.1)).Nodup := by
  refine List.Nodup.sublist (List.filter_sublist.map _) ?_
  simpa [degrees, List.map_map, Function.comp_def] using hn

/-- In the beginning nothing is done. -/
theorem releasing_nil (hn : g.ids.Nodup) :
    g.Releasing [] (g.degrees.filter (·.2 ≠ 0)) ((g.degrees.filter (·.2 = 0)).map (·.1)) := by
  have hwaits : ∀ id n, (g.degrees.filter (·.2 ≠ 0)).lookup id = some n ↔
      (id ∈ g.ids ∧ n = g.openCount [] id) ∧ n ≠ 0 := by
    intro id n
    rw [lookup_eq_some_iff (nodup_degrees hn _), List.mem_filter, mem_degrees, decide_eq_true_eq]
  have hqueue : ∀ id, id ∈ (g.degrees.filter (·.2 = 0)).map (·.1) ↔
      id ∈ g.ids ∧ g.openCount [] id = 0 := by
    intro id
    simp only [List.mem_map, List.mem_filter, Prod.exists, mem_degrees, decide_eq_true_eq]
    constructor
    · rintro ⟨_, _, ⟨⟨hid, rfl⟩, hzero⟩, rfl⟩
      exact ⟨hid, hzero⟩
    · rintro ⟨hid, hzero⟩
      exact ⟨id, _, ⟨⟨hid, rfl⟩, hzero⟩, rfl⟩
  refine ⟨?_, by simp, nodup_degrees hn _, ⟨nodup_degrees hn _, ?_⟩, ?_, ?_⟩
  · intro id hid
    exact ((hqueue id).1 hid).2
  · intro id n hl
    exact Nat.pos_of_ne_zero ((hwaits id n).1 hl).2
  · intro id n hl
    obtain ⟨⟨-, rfl⟩, hne⟩ := (hwaits id n).1 hl
    refine ⟨List.not_mem_nil, fun hq => hne ((hqueue id).1 hq).2, rfl⟩
  · intro id hid
    by_cases hzero : g.openCount [] id = 0
    · exact .inr (.inl ((hqueue id).2 ⟨hid, hzero⟩))
    · exact .inr (.inr ⟨_, (hwaits id _).2 ⟨⟨hid, rfl⟩, hzero⟩⟩)

theorem inOrder_topologicalOrder (hn : g.ids.Nodup) : g.InOrder [] g.topologicalOrder :=
  (releasing_nil hn).inOrder

/-- What is left out of the order is behind something that is left out. -/
theorem exists_links_of_left (hn : g.ids.Nodup) {id : String} (hid : id ∈ g.ids)
    (hleft : id ∉ g.topologicalOrder) : ∃ u, g.Links u id ∧ u ∉ g.topologicalOrder := by
  obtain ⟨u, hu, -, hleft⟩ := (releasing_nil hn).exists_links hid List.not_mem_nil hleft
  exact ⟨u, hu, hleft⟩

/-- In an order each edge leads forward. -/
theorem InOrder.idxOf_lt {done ids : List String} (h : g.InOrder done ids) {u v : String}
    (hl : g.Links u v) (hv : v ∈ ids) (hu : u ∉ done) :
    u ∈ ids ∧ ids.idxOf u < ids.idxOf v := by
  induction ids generalizing done with
  | nil => cases hv
  | cons id ids ih =>
    obtain ⟨hid, hrest⟩ := h
    by_cases hvid : v = id
    · subst hvid
      exact absurd (hid u hl) hu
    · have hv' : v ∈ ids := (List.mem_cons.1 hv).resolve_left hvid
      rw [List.idxOf_cons_ne _ (Ne.symm hvid)]
      by_cases huid : u = id
      · subst huid
        simp
      · obtain ⟨hmem, hlt⟩ := ih hrest hv' (by simp [huid, hu])
        rw [List.idxOf_cons_ne _ (Ne.symm huid)]
        exact ⟨List.mem_cons_of_mem _ hmem, Nat.succ_lt_succ hlt⟩

theorem InOrder.idxOf_lt_of_transGen {ids : List String} (h : g.InOrder [] ids) {u v : String}
    (hr : Relation.TransGen g.Links u v) (hv : v ∈ ids) : u ∈ ids ∧ ids.idxOf u < ids.idxOf v := by
  induction hr with
  | single hl => exact h.idxOf_lt hl hv List.not_mem_nil
  | tail _ hl ih =>
    obtain ⟨hmem, hlt⟩ := h.idxOf_lt hl hv List.not_mem_nil
    obtain ⟨hu, hlt'⟩ := ih hmem
    exact ⟨hu, Nat.lt_trans hlt' hlt⟩

theorem mem_ids_of_links {u v : String} (h : g.Links u v) : u ∈ g.ids ∧ v ∈ g.ids := by
  simp only [Links, predecessors, List.mem_map, List.mem_filter, Bool.and_eq_true,
    decide_eq_true_eq, resolves_iff] at h
  obtain ⟨e, ⟨_, ht, hsrc, htgt⟩, hs⟩ := h
  exact ⟨hs ▸ hsrc, ht ▸ htgt⟩

theorem mem_unordered {id : String} :
    id ∈ Structure.unordered g ↔ id ∈ g.ids ∧ id ∉ g.topologicalOrder := by
  simp [Structure.unordered]

/-- **What is left out** is on a cycle or behind one. -/
theorem mem_unordered_iff (hn : g.ids.Nodup) {id : String} :
    id ∈ Structure.unordered g ↔
      ∃ u, Relation.TransGen g.Links u u ∧ Relation.ReflTransGen g.Links u id := by
  have horder := inOrder_topologicalOrder hn
  have hcycle : ∀ u, Relation.TransGen g.Links u u → u ∉ g.topologicalOrder := by
    intro u hu hmem
    exact Nat.lt_irrefl _ (horder.idxOf_lt_of_transGen hu hmem).2
  constructor
  · rw [mem_unordered]
    intro hleft
    let leads (v : String) : Prop :=
      (v ∈ g.ids ∧ v ∉ g.topologicalOrder) ∧ Relation.ReflTransGen g.Links v id
    have hbehind : ∀ v, leads v → ∃ u, g.Links u v ∧ leads u := by
      rintro v ⟨⟨hv, hleft⟩, hto⟩
      obtain ⟨u, hl, hu⟩ := exists_links_of_left hn hv hleft
      exact ⟨u, hl, ⟨(mem_ids_of_links hl).1, hu⟩, .head hl hto⟩
    obtain ⟨u, ⟨-, hto⟩, hu⟩ := exists_cycle g.ids (fun _ h => h.1.1) hbehind ⟨hleft, .refl⟩
    exact ⟨u, hu, hto⟩
  · rintro ⟨u, hu, hto⟩
    rw [mem_unordered]
    rcases Relation.reflTransGen_iff_eq_or_transGen.1 hto with rfl | hto
    · obtain ⟨v, -, hl⟩ := Relation.TransGen.tail'_iff.1 hu
      exact ⟨(mem_ids_of_links hl).2, hcycle _ hu⟩
    · obtain ⟨v, -, hl⟩ := Relation.TransGen.tail'_iff.1 hto
      refine ⟨(mem_ids_of_links hl).2, fun hmem => ?_⟩
      exact hcycle u hu (horder.idxOf_lt_of_transGen hto hmem).1

theorem nodup_topologicalOrder (hn : g.ids.Nodup) : g.topologicalOrder.Nodup :=
  (releasing_nil hn).nodup_release.1

theorem mem_ids_of_mem_topologicalOrder {id : String} (h : id ∈ g.topologicalOrder) :
    id ∈ g.ids := by
  refine mem_ids_of_mem_release (fun k hk => ?_) h
  simp only [List.mem_map, List.mem_filter] at hk
  obtain ⟨_, ⟨⟨l, hl, rfl⟩, -⟩, rfl⟩ := hk
  exact hl

/-- **What is in the order** are the nodes that are neither on a cycle nor behind one. -/
theorem mem_topologicalOrder (hn : g.ids.Nodup) {id : String} :
    id ∈ g.topologicalOrder ↔ id ∈ g.ids ∧
      ¬∃ u, Relation.TransGen g.Links u u ∧ Relation.ReflTransGen g.Links u id := by
  rw [← mem_unordered_iff hn, mem_unordered, not_and, not_not]
  exact ⟨fun h => ⟨mem_ids_of_mem_topologicalOrder h, fun _ => h⟩, fun h => h.2 h.1⟩

/-- **The order is complete** iff there is no cycle. -/
theorem unordered_eq_nil_iff (hn : g.ids.Nodup) :
    Structure.unordered g = [] ↔ ∀ v, ¬Relation.TransGen g.Links v v := by
  rw [List.eq_nil_iff_forall_not_mem]
  constructor
  · intro h v hv
    exact h v ((mem_unordered_iff hn).2 ⟨v, hv, .refl⟩)
  · intro h id hid
    obtain ⟨u, hu, -⟩ := (mem_unordered_iff hn).1 hid
    exact h u hu

end WorkflowRelease.Graph
