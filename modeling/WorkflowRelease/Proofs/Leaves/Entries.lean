import WorkflowRelease.Json.Leaves
import WorkflowRelease.Proofs.Leaves.Breadth

/-!
# Leaves of an object

What a walk over the objects in an object finds is what the recursion lists that goes down into
every object at once: each value that is no object, once, with the keys that lead to it. The walk
puts its paths together key by key from an empty one and takes an empty path for the beginning
(`pathBelow_dotted`), so empty keys in front leave no trace. Main statement: `flatten_byDepth`.
-/

namespace WorkflowRelease.Json

/-! ## The recursion -/

mutual

/-- The values behind some keys that are no objects, in document order, with all keys that lead to
them. A list is such a value, and what is in it is not looked at. -/
def placedEntries (keys : List String) : Json → List (List String × Json)
  | .object fields => placedEntriesOfFields keys fields
  | v => [(keys, v)]

def placedEntriesOfFields (keys : List String) : List (String × Json) → List (List String × Json)
  | [] => []
  | (key, v) :: es => placedEntries (keys ++ [key]) v ++ placedEntriesOfFields keys es

end

/-- The path that keys make up: those from the first one on that is not empty, with dots between
them. -/
def dotted (keys : List String) : String := ".".intercalate (keys.dropWhile (· = ""))

/-- Entries of an object that are not objects themselves, with the keys that lead to them. -/
def placedEntriesHere (x : List String × Fields) : List (List String × Json) :=
  x.2.filterMap fun e => match e.2 with
    | .object _ => none
    | v => some (x.1 ++ [e.1], v)

/-- Entries of an object that are objects, with the keys that lead to them. -/
def placedObjectsHere (x : List String × Fields) : List (List String × Fields) :=
  x.2.filterMap fun e => match e.2 with
    | .object fields => some (x.1 ++ [e.1], fields)
    | _ => none

mutual

theorem length_le_of_mem {keys : List String} {e : List String × Json} :
    ∀ {v : Json}, e ∈ placedEntries keys v → keys.length ≤ e.1.length
  | .object _, h => Nat.le_of_succ_le (length_lt_of_mem h)
  | .list _, h | .null, h | .bool _, h | .int _, h | .float _, h | .text _, h =>
    Nat.le_of_eq (congrArg (·.1.length) (List.mem_singleton.1 h)).symm

theorem length_lt_of_mem {keys : List String} {e : List String × Json} :
    ∀ {es : List (String × Json)}, e ∈ placedEntriesOfFields keys es → keys.length < e.1.length
  | (key, _) :: _, h => by
    rcases List.mem_append.1 h with h | h
    · have := length_le_of_mem h
      rw [List.length_append, List.length_singleton] at this
      omega
    · exact length_lt_of_mem h

end

theorem filter_placedEntriesOfFields {keys : List String} {d : Nat} (h : d ≤ keys.length)
    (o : Fields) : (placedEntriesOfFields keys o).filter (·.1.length = d) = [] := by
  rw [List.filter_eq_nil_iff]
  intro e he
  have := length_lt_of_mem he
  rw [decide_eq_true_eq]
  omega

/-- The recursion lists an object, and the objects in it one key further down. -/
theorem listing_placedEntries :
    Listing placedEntriesHere placedObjectsHere (·.1.length + 1) (·.1.length)
      (fun x => placedEntriesOfFields x.1 x.2) where
  rank_opens x y hy := by
    obtain ⟨e, -, he⟩ := List.mem_filterMap.1 hy
    split at he
    · cases he
      simp
    · cases he
  above x d hd := filter_placedEntriesOfFields (Nat.le_of_lt_succ hd) x.2
  here := by
    rintro ⟨keys, o⟩
    induction o with
    | nil => rfl
    | cons e o ih =>
      obtain ⟨key, v⟩ := e
      simp only [placedEntriesHere] at ih ⊢
      rw [placedEntriesOfFields, List.filter_append, ih, List.filterMap_cons]
      cases v with
      | object fields =>
        rw [placedEntries, filter_placedEntriesOfFields (by simp)]
        rfl
      | _ => simp [placedEntries]
  below := by
    rintro ⟨keys, o⟩ d hd
    induction o with
    | nil => rfl
    | cons e o ih =>
      obtain ⟨key, v⟩ := e
      simp only [placedObjectsHere] at ih ⊢
      rw [placedEntriesOfFields, List.filter_append, ih hd, List.filterMap_cons]
      cases v with
      | object fields => rfl
      | _ =>
        have : keys.length + 1 ≠ d := Nat.ne_of_lt hd
        simp [placedEntries, this]

/-! ## Paths -/

theorem dotted_ne_empty {key : String} {keys : List String} (h : key ≠ "") :
    ".".intercalate (key :: keys) ≠ "" := by
  cases keys with
  | nil => simpa using h
  | cons k keys => simp [h]

/-- A path is that of the keys above and the key. What the walk takes for the beginning is any row
of empty keys, whose path is empty. -/
theorem pathBelow_dotted (keys : List String) (key : String) :
    pathBelow (dotted keys) key = dotted (keys ++ [key]) := by
  unfold pathBelow dotted
  rw [List.dropWhile_append]
  cases hkeys : keys.dropWhile (· = "") with
  | nil =>
    by_cases hkey : key = "" <;> simp [hkey]
  | cons first rest =>
    have hfirst : first ≠ "" := by
      have := List.head?_dropWhile_not (· = "") keys
      simpa [hkeys] using this
    rw [if_neg (dotted_ne_empty hfirst), List.isEmpty_cons, if_neg Bool.false_ne_true,
      String.intercalate_append_of_ne_nil (List.cons_ne_nil _ _) (List.cons_ne_nil _ _),
      String.intercalate_singleton]

/-! ## The walk -/

/-- Each turn of the walk takes out an object, so there are no more turns than values. -/
theorem exists_drains_leafEntries (pending : List (String × Fields)) :
    ∃ turns ≤ queueSize pending,
      Drains (fun x => entriesHere x.1 x.2) (fun x => objectsHere x.1 x.2) turns pending
        (leafEntries pending) := by
  fun_induction leafEntries pending with
  | case1 => exact ⟨0, Nat.le_refl _, .done⟩
  | case2 above o rest ih =>
    obtain ⟨turns, hle, hlater⟩ := ih
    have hobjects := queueSize_objectsHere above o
    rw [queueSize_append] at hle
    refine ⟨turns + 1, ?_, .turn hlater⟩
    simp only [queueSize]
    omega

theorem entriesHere_dotted (x : List String × Fields) :
    entriesHere (dotted x.1) x.2 = (placedEntriesHere x).map fun e => (dotted e.1, e.2) := by
  rw [entriesHere, placedEntriesHere, List.map_filterMap]
  refine List.filterMap_congr fun e _ => ?_
  rcases e with ⟨key, _ | _ | _ | _ | _ | _ | _⟩ <;> simp [pathBelow_dotted]

theorem objectsHere_dotted (x : List String × Fields) :
    objectsHere (dotted x.1) x.2 = (placedObjectsHere x).map fun e => (dotted e.1, e.2) := by
  rw [objectsHere, placedObjectsHere, List.map_filterMap]
  refine List.filterMap_congr fun e _ => ?_
  rcases e with ⟨key, _ | _ | _ | _ | _ | _ | _⟩ <;> simp [pathBelow_dotted]

/-- **The walk over an object** comes to an end, after no more turns than there are values in it. It
finds the values that the recursion lists, each one once and under the path that the keys make up
which lead to it, those behind fewer keys before the others, and those behind equally many in
document order. -/
theorem flatten_byDepth (o : Fields) :
    (∃ turns ≤ size (.object o), ∀ n entries,
      Drains (fun x => entriesHere x.1 x.2) (fun x => objectsHere x.1 x.2) n [("", o)] entries ↔
        n = turns ∧ entries = flatten (.object o)) ∧
    ∃ found, flatten (.object o) = found.map (fun e => (dotted e.1, e.2)) ∧
      ByDepth (·.1.length) found (placedEntries [] (.object o)) := by
  obtain ⟨turns, hle, hwalk⟩ := exists_drains_leafEntries [("", o)]
  exact ⟨⟨turns, hle, fun n entries => hwalk.iff_eq⟩,
    hwalk.exists_byDepth listing_placedEntries (fun x => (dotted x.1, x.2)) _ entriesHere_dotted
      objectsHere_dotted ([], o)⟩

/-- An empty key in front is left out, the others are kept, and dots in keys are as they are. -/
example :
    flatten
        (.object [("", .object [("a", .int 1)]), ("b", .object [("", .null)]), ("c.d", .list [])]) =
      [("c.d", .list []), ("a", .int 1), ("b.", .null)] := by
  decide +kernel

end WorkflowRelease.Json
