import Mathlib.Data.List.Perm.Basic

/-!
# Walks with a queue

A walk takes the first item out of a queue again and again: the item gives something, and what it
opens is put at the end. Main statements: `Drains.unique`, there is only one way to the end, and
`Drains.byDepth`, where what is opened lies one level below what opens it, the walk gives all there
is level by level, in the order of a listing that goes down at once.
-/

namespace WorkflowRelease

variable {α β : Type}

/-- The queue is empty after so many turns, and all this has been given till then. -/
inductive Drains (gives : α → List β) (opens : α → List α) : Nat → List α → List β → Prop
  | done : Drains gives opens 0 [] []
  | turn {n : Nat} {x : α} {rest : List α} {found : List β}
      (later : Drains gives opens n (rest ++ opens x) found) :
      Drains gives opens (n + 1) (x :: rest) (gives x ++ found)

/-- What is found is what is listed, brought into the order of depths: what has the same depth stays
in the order of the list. -/
structure ByDepth (depth : β → Nat) (found listed : List β) : Prop where
  perm : found.Perm listed
  increasing : found.Pairwise (depth · ≤ depth ·)
  inOrder : ∀ d, found.filter (depth · = d) = listed.filter (depth · = d)

/-- A listing of what lies at an item and below it. What the item gives has the rank of the item for
its depth, and all else in the listing is in the listings of what it opens, one rank below. -/
structure Listing (gives : α → List β) (opens : α → List α) (rank : α → Nat) (depth : β → Nat)
    (listed : α → List β) : Prop where
  rank_opens : ∀ x, ∀ y ∈ opens x, rank y = rank x + 1
  above : ∀ x d, d < rank x → (listed x).filter (depth · = d) = []
  here : ∀ x, (listed x).filter (depth · = rank x) = gives x
  below : ∀ x d, rank x < d →
    (listed x).filter (depth · = d) = (opens x).flatMap fun y => (listed y).filter (depth · = d)

/-- Nothing is lost or repeated where nothing of any one depth is. -/
theorem ByDepth.of_inOrder {depth : β → Nat} {found listed : List β}
    (increasing : found.Pairwise (depth · ≤ depth ·))
    (inOrder : ∀ d, found.filter (depth · = d) = listed.filter (depth · = d)) :
    ByDepth depth found listed where
  perm := by
    classical
    refine List.perm_iff_count.2 fun e => ?_
    have hcount (l : List β) : (l.filter (depth · = depth e)).count e = l.count e :=
      List.count_filter (by simp)
    rw [← hcount found, inOrder, hcount listed]
  increasing := increasing
  inOrder := inOrder

/-! ## Listings -/

namespace Listing

variable {gives : α → List β} {opens : α → List α} {rank : α → Nat} {depth : β → Nat}
  {listed : α → List β} {x : α} {d : Nat}

theorem depth_of_mem (h : Listing gives opens rank depth listed) {e : β} (he : e ∈ gives x) :
    depth e = rank x := by
  rw [← h.here x, List.mem_filter, decide_eq_true_eq] at he
  exact he.2

theorem filter_gives (h : Listing gives opens rank depth listed) :
    (gives x).filter (depth · = d) =
      if rank x = d then (listed x).filter (depth · = d) else [] := by
  split
  · rename_i hd
    rw [← hd, h.here, List.filter_eq_self]
    intro e he
    simpa using h.depth_of_mem he
  · rename_i hd
    rw [List.filter_eq_nil_iff]
    intro e he
    simpa [h.depth_of_mem he] using hd

/-- What is opened lists all that the item does not give itself. -/
theorem flatMap_opens (h : Listing gives opens rank depth listed) :
    (opens x).flatMap (fun y => (listed y).filter (depth · = d)) =
      if rank x = d then [] else (listed x).filter (depth · = d) := by
  rcases Nat.lt_or_ge (rank x) d with hd | hd
  · rw [if_neg (Nat.ne_of_lt hd), h.below x d hd]
  · have hnil : (opens x).flatMap (fun y => (listed y).filter (depth · = d)) = [] := by
      rw [List.flatMap_eq_nil_iff]
      intro y hy
      refine h.above y d ?_
      rw [h.rank_opens x y hy]
      omega
    rw [hnil]
    split
    · rfl
    · rename_i hne
      exact (h.above x d (by omega)).symm

/-! A level is a queue whose items have one rank. -/

section

variable {queue : List α} {r : Nat} (hqueue : ∀ x ∈ queue, rank x = r)

include hqueue

theorem depth_of_mem_level (h : Listing gives opens rank depth listed) :
    ∀ e ∈ queue.flatMap gives, depth e = r := by
  intro e he
  obtain ⟨x, hx, hxe⟩ := List.mem_flatMap.1 he
  rw [h.depth_of_mem hxe, hqueue x hx]

theorem rank_of_mem_level (h : Listing gives opens rank depth listed) :
    ∀ y ∈ queue.flatMap opens, rank y = r + 1 := by
  intro y hy
  obtain ⟨x, hx, hxy⟩ := List.mem_flatMap.1 hy
  rw [h.rank_opens x y hxy, hqueue x hx]

/-- What a level lists is what its items give and what the next level lists. -/
theorem filter_level (h : Listing gives opens rank depth listed) :
    (queue.flatMap gives).filter (depth · = d) ++
        (queue.flatMap opens).flatMap (fun y => (listed y).filter (depth · = d)) =
      queue.flatMap fun x => (listed x).filter (depth · = d) := by
  have hgives : ∀ x ∈ queue, (gives x).filter (depth · = d) =
      if r = d then (listed x).filter (depth · = d) else [] :=
    fun x hx => by rw [h.filter_gives, hqueue x hx]
  have hopens : ∀ x ∈ queue, (opens x).flatMap (fun y => (listed y).filter (depth · = d)) =
      if r = d then [] else (listed x).filter (depth · = d) :=
    fun x hx => by rw [h.flatMap_opens, hqueue x hx]
  rw [List.filter_flatMap, List.flatMap_assoc, List.flatMap_congr hgives, List.flatMap_congr hopens]
  by_cases hd : r = d <;> simp [hd]

end

end Listing

/-! ## Walks -/

namespace Drains

variable {gives : α → List β} {opens : α → List α} {n : Nat} {queue : List α} {found : List β}

/-- **There is one way to the end**, so the turns and what is found are settled by the queue. -/
theorem unique (h : Drains gives opens n queue found) {m : Nat} {found' : List β}
    (h' : Drains gives opens m queue found') : m = n ∧ found' = found := by
  induction h generalizing m found' with
  | done =>
    cases h'
    exact ⟨rfl, rfl⟩
  | turn _ ih =>
    cases h' with
    | turn later =>
      obtain ⟨rfl, rfl⟩ := ih later
      exact ⟨rfl, rfl⟩

theorem iff_eq (h : Drains gives opens n queue found) {m : Nat} {found' : List β} :
    Drains gives opens m queue found' ↔ m = n ∧ found' = found := by
  refine ⟨h.unique, ?_⟩
  rintro ⟨rfl, rfl⟩
  exact h

/-- A walk can be made with items that carry more than it needs, and finds the same. -/
theorem lift {α' β' : Type} {gives' : α' → List β'} {opens' : α' → List α'} (f : α' → α)
    (g : β' → β) (hgives : ∀ x, gives (f x) = (gives' x).map g)
    (hopens : ∀ x, opens (f x) = (opens' x).map f) {queue' : List α'}
    (h : Drains gives opens n (queue'.map f) found) :
    ∃ found', found = found'.map g ∧ Drains gives' opens' n queue' found' := by
  generalize hqueue : queue'.map f = queue at h
  induction h generalizing queue' with
  | done =>
    rw [List.map_eq_nil_iff.1 hqueue]
    exact ⟨[], rfl, .done⟩
  | turn _ ih =>
    obtain ⟨x, rest, rfl, rfl, rfl⟩ := List.map_eq_cons_iff.1 hqueue
    obtain ⟨later, rfl, hlater⟩ := ih (by rw [List.map_append, hopens])
    exact ⟨gives' x ++ later, by rw [List.map_append, hgives], .turn hlater⟩

/-- The first items of the queue come first, and what they open comes after all the others. -/
theorem append {xs ys : List α} (h : Drains gives opens n (xs ++ ys) found) :
    ∃ m later, n = xs.length + m ∧ found = xs.flatMap gives ++ later ∧
      Drains gives opens m (ys ++ xs.flatMap opens) later := by
  induction xs generalizing ys n found with
  | nil => exact ⟨n, found, by simp, by simp, by simpa using h⟩
  | cons x xs ih =>
    rw [List.cons_append] at h
    cases h with
    | turn later =>
      rw [List.append_assoc] at later
      obtain ⟨m, last, rfl, rfl, hlast⟩ := ih later
      refine ⟨m, last, by rw [List.length_cons]; omega, by simp, ?_⟩
      simpa using hlast

/-- A walk begins with its queue, and what this opens is the queue of the next level. -/
theorem level (h : Drains gives opens n queue found) :
    ∃ m later, n = queue.length + m ∧ found = queue.flatMap gives ++ later ∧
      Drains gives opens m (queue.flatMap opens) later := by
  rw [← List.append_nil queue] at h
  simpa using append h

variable {rank : α → Nat} {depth : β → Nat} {listed : α → List β}

/-- The depths never fall, and what has the same depth comes in the order of the listings. The
induction is on the number of turns: a level that is not empty leaves fewer of them. -/
theorem sorted_and_inOrder (hl : Listing gives opens rank depth listed)
    (h : Drains gives opens n queue found) {r : Nat} (hqueue : ∀ x ∈ queue, rank x = r) :
    ((∀ e ∈ found, r ≤ depth e) ∧ found.Pairwise (depth · ≤ depth ·)) ∧
      ∀ d, found.filter (depth · = d) =
        queue.flatMap fun x => (listed x).filter (depth · = d) := by
  induction n using Nat.strongRecOn generalizing queue found r with
  | ind n ih =>
    obtain ⟨m, later, rfl, rfl, hlater⟩ := h.level
    rcases queue.eq_nil_or_concat with rfl | hne
    · cases hlater
      simp
    have hnow := hl.depth_of_mem_level hqueue
    have hfewer : m < queue.length + m := by
      obtain ⟨xs, x, rfl⟩ := hne
      simp
    obtain ⟨⟨hdepth, hsorted⟩, hfilter⟩ := ih m hfewer hlater (hl.rank_of_mem_level hqueue)
    refine ⟨⟨fun e he => ?_, ?_⟩, fun d => ?_⟩
    · rcases List.mem_append.1 he with he | he
      · exact Nat.le_of_eq (hnow e he).symm
      · exact Nat.le_of_succ_le (hdepth e he)
    · refine List.pairwise_append.2 ⟨?_, hsorted, fun a ha b hb => ?_⟩
      · exact List.pairwise_of_forall_mem_list fun a ha b hb =>
          Nat.le_of_eq ((hnow a ha).trans (hnow b hb).symm)
      · rw [hnow a ha]
        exact Nat.le_of_succ_le (hdepth b hb)
    · rw [List.filter_append, hfilter d, hl.filter_level hqueue]

/-- **A walk level by level**: all that is listed for a queue of one rank is found, the depths never
fall, and what has the same depth is found in the order of the listings. -/
theorem byDepth (hl : Listing gives opens rank depth listed)
    (h : Drains gives opens n queue found) {r : Nat} (hqueue : ∀ x ∈ queue, rank x = r) :
    ByDepth depth found (queue.flatMap listed) := by
  obtain ⟨⟨-, hsorted⟩, hfilter⟩ := sorted_and_inOrder hl h hqueue
  refine .of_inOrder hsorted fun d => ?_
  rw [hfilter d, List.filter_flatMap]

/-- The same for a walk that finds what is listed without its depths. -/
theorem exists_byDepth {α' β' : Type} {gives' : α' → List β'} {opens' : α' → List α'}
    {rank : α' → Nat} {depth : β' → Nat} {listed : α' → List β'}
    (hl : Listing gives' opens' rank depth listed) (f : α' → α) (g : β' → β)
    (hgives : ∀ x, gives (f x) = (gives' x).map g) (hopens : ∀ x, opens (f x) = (opens' x).map f)
    (x : α') (h : Drains gives opens n [f x] found) :
    ∃ found', found = found'.map g ∧ ByDepth depth found' (listed x) := by
  have hmap : [f x] = [x].map f := rfl
  rw [hmap] at h
  obtain ⟨found', rfl, hlifted⟩ := h.lift f g hgives hopens
  have hranks : ∀ y ∈ [x], rank y = rank x := fun y hy => by rw [List.mem_singleton.1 hy]
  exact ⟨found', rfl, by simpa using hlifted.byDepth hl hranks⟩

end Drains

end WorkflowRelease
