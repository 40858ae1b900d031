/-!
# Sorted sets of texts

A set of texts is kept as a strictly increasing list, in the order of code points. Main statements:
`mem_sorted`, no text is lost or added, and `pairwise_sorted`, the list increases strictly, so two
lists with the same texts give the same set.
-/

namespace WorkflowRelease.Text

/-- Adds a text to a sorted set. -/
def insertSorted (s : String) : List String → List String
  | [] => [s]
  | t :: ts =>
    if s < t then s :: t :: ts
    else if s = t then t :: ts
    else t :: insertSorted s ts

/-- The texts in increasing order, each one once. -/
def sorted : List String → List String
  | [] => []
  | s :: ss => insertSorted s (sorted ss)

/-- The texts in first-seen order, each one once. -/
def distinct : List String → List String
  | [] => []
  | s :: ss => s :: (distinct ss).filter (· ≠ s)

theorem mem_insertSorted {s t : String} {l : List String} :
    t ∈ insertSorted s l ↔ t = s ∨ t ∈ l := by
  induction l with
  | nil => simp [insertSorted]
  | cons u us ih =>
    rw [insertSorted]
    split
    · simp
    · split
      · rename_i h; subst h; simp
      · simp only [List.mem_cons, ih]
        exact or_left_comm

@[simp] theorem mem_sorted {t : String} {l : List String} : t ∈ sorted l ↔ t ∈ l := by
  induction l with
  | nil => simp [sorted]
  | cons s ss ih => simp [sorted, mem_insertSorted, ih]

theorem lt_of_not_lt_of_ne {s t : String} (h : ¬ s < t) (hne : s ≠ t) : t < s := by
  have hle : t ≤ s := String.not_lt.1 h
  exact String.not_le.1 fun hst => hne (String.le_antisymm hst hle)

theorem pairwise_insertSorted {s : String} {l : List String} (h : l.Pairwise (· < ·)) :
    (insertSorted s l).Pairwise (· < ·) := by
  induction l with
  | nil => simp [insertSorted]
  | cons u us ih =>
    have hu := List.pairwise_cons.1 h
    rw [insertSorted]
    split
    · rename_i hs
      refine List.pairwise_cons.2 ⟨fun v hv => ?_, h⟩
      rcases List.mem_cons.1 hv with rfl | hv
      · exact hs
      · exact String.lt_trans hs (hu.1 v hv)
    · split
      · exact h
      · rename_i hlt hne
        refine List.pairwise_cons.2 ⟨fun v hv => ?_, ih hu.2⟩
        rcases mem_insertSorted.1 hv with rfl | hv
        · exact lt_of_not_lt_of_ne hlt hne
        · exact hu.1 v hv

theorem pairwise_sorted (l : List String) : (sorted l).Pairwise (· < ·) := by
  induction l with
  | nil => exact List.Pairwise.nil
  | cons s ss ih => exact pairwise_insertSorted ih

@[simp] theorem mem_distinct {t : String} {l : List String} : t ∈ distinct l ↔ t ∈ l := by
  induction l with
  | nil => simp [distinct]
  | cons s ss ih =>
    by_cases h : t = s <;> simp [distinct, ih, h]

theorem nodup_distinct (l : List String) : (distinct l).Nodup := by
  induction l with
  | nil => exact List.nodup_nil
  | cons s ss ih =>
    refine List.nodup_cons.2 ⟨by simp, ?_⟩
    exact ih.sublist List.filter_sublist

/-- The set is empty iff there is no text. -/
@[simp] theorem sorted_eq_nil {l : List String} : sorted l = [] ↔ l = [] := by
  constructor
  · intro h
    cases l with
    | nil => rfl
    | cons s ss =>
      have : s ∈ sorted (s :: ss) := mem_sorted.2 (by simp)
      simp [h] at this
  · rintro rfl
    rfl

end WorkflowRelease.Text
