import WorkflowRelease.Json.Leaves
import WorkflowRelease.Proofs.Leaves.Breadth

/-!
# Texts of a value

The texts that a walk with a queue finds in a value are those of the recursion that goes down into
each value at once: every text as often as it stands there, and no keys. Main statement:
`textLeaves_byDepth`, the walk ends after one turn for each value in the value, and brings the
texts of the recursion into the order of their depths.
-/

namespace WorkflowRelease.Json

/-! ## The recursion -/

mutual

/-- The texts of a value in document order, with their depths: lists and objects have the texts of
what is in them, one level below. Keys are not texts. -/
def placedTexts (depth : Nat) : Json → List (Nat × String)
  | .text s => [(depth, s)]
  | .list items => placedTextsOfList (depth + 1) items
  | .object fields => placedTextsOfFields (depth + 1) fields
  | .null | .bool _ | .int _ | .float _ => []

def placedTextsOfList (depth : Nat) : List Json → List (Nat × String)
  | [] => []
  | v :: vs => placedTexts depth v ++ placedTextsOfList depth vs

def placedTextsOfFields (depth : Nat) : List (String × Json) → List (Nat × String)
  | [] => []
  | (_, v) :: es => placedTexts depth v ++ placedTextsOfFields depth es

end

/-- The text that a value is. -/
def textHere : Json → List String
  | .text s => [s]
  | _ => []

/-- The values in a list or in an object, in order. -/
def children : Json → List Json
  | .list items => items
  | .object fields => Fields.values fields
  | _ => []

/-- The text that a value is, with the depth of the value. -/
def placedHere (x : Nat × Json) : List (Nat × String) := (textHere x.2).map (x.1, ·)

/-- The values in a value, with their depth. -/
def placedChildren (x : Nat × Json) : List (Nat × Json) := (children x.2).map (x.1 + 1, ·)

theorem placedTextsOfList_eq (depth : Nat) (vs : List Json) :
    placedTextsOfList depth vs = vs.flatMap (placedTexts depth) := by
  induction vs with
  | nil => rfl
  | cons v vs ih => rw [placedTextsOfList, ih, List.flatMap_cons]

theorem placedTextsOfFields_eq (depth : Nat) (es : Fields) :
    placedTextsOfFields depth es = es.values.flatMap (placedTexts depth) := by
  induction es with
  | nil => rfl
  | cons e es ih =>
    rw [placedTextsOfFields, ih]
    rfl

/-- A value has the text that it is and the texts of the values in it. -/
theorem placedTexts_eq (depth : Nat) (v : Json) :
    placedTexts depth v =
      placedHere (depth, v) ++ (children v).flatMap (placedTexts (depth + 1)) := by
  cases v with
  | list items => exact placedTextsOfList_eq (depth + 1) items
  | object fields => exact placedTextsOfFields_eq (depth + 1) fields
  | _ => rfl

mutual

theorem depth_le_of_mem {depth : Nat} {e : Nat × String} :
    ∀ {v : Json}, e ∈ placedTexts depth v → depth ≤ e.1
  | .text _, h => Nat.le_of_eq (congrArg Prod.fst (List.mem_singleton.1 h)).symm
  | .list _, h => Nat.le_of_succ_le (depth_le_of_mem_list h)
  | .object _, h => Nat.le_of_succ_le (depth_le_of_mem_fields h)
  | .null, h | .bool _, h | .int _, h | .float _, h => nomatch h

theorem depth_le_of_mem_list {depth : Nat} {e : Nat × String} :
    ∀ {vs : List Json}, e ∈ placedTextsOfList depth vs → depth ≤ e.1
  | _ :: _, h => (List.mem_append.1 h).elim depth_le_of_mem depth_le_of_mem_list

theorem depth_le_of_mem_fields {depth : Nat} {e : Nat × String} :
    ∀ {es : List (String × Json)}, e ∈ placedTextsOfFields depth es → depth ≤ e.1
  | (_, _) :: _, h => (List.mem_append.1 h).elim depth_le_of_mem depth_le_of_mem_fields

end

theorem filter_placedTexts_of_lt {depth d : Nat} (h : d < depth) (v : Json) :
    (placedTexts depth v).filter (·.1 = d) = [] := by
  rw [List.filter_eq_nil_iff]
  intro e he
  have := depth_le_of_mem he
  rw [decide_eq_true_eq]
  omega

/-- The recursion lists a value, and the values in it one level below. -/
theorem listing_placedTexts :
    Listing placedHere placedChildren (·.1) (·.1) (fun x => placedTexts x.1 x.2) where
  rank_opens x y hy := by
    obtain ⟨v, -, rfl⟩ := List.mem_map.1 hy
    rfl
  above x d hd := filter_placedTexts_of_lt hd x.2
  here := by
    rintro ⟨depth, v⟩
    have hbelow : (children v).flatMap (fun w => (placedTexts (depth + 1) w).filter (·.1 = depth)) =
        [] :=
      List.flatMap_eq_nil_iff.2 fun w _ => filter_placedTexts_of_lt (Nat.lt_succ_self depth) w
    rw [placedTexts_eq, List.filter_append, List.filter_flatMap, hbelow, List.append_nil,
      List.filter_eq_self]
    simp [placedHere]
  below := by
    rintro ⟨depth, v⟩ d hd
    have hhere : (placedHere (depth, v)).filter (·.1 = d) = [] := by
      simp [placedHere, List.filter_eq_nil_iff, Nat.ne_of_lt hd]
    rw [placedTexts_eq, List.filter_append, hhere, List.nil_append, List.filter_flatMap,
      placedChildren, List.flatMap_map]

/-! ## The walk -/

theorem size_eq (v : Json) : size v = sizeList (children v) + 1 := by
  cases v with
  | object fields => rw [size, children, sizeList_values]
  | _ => rfl

theorem textLeaves_cons (v : Json) (rest : List Json) :
    textLeaves (v :: rest) = textHere v ++ textLeaves (rest ++ children v) := by
  cases v <;> simp [textLeaves, textHere, children]

/-- Each turn of the walk takes one value out, with the text that it is, and puts the values in it
at the end. -/
theorem drains_textLeaves (pending : List Json) :
    Drains textHere children (sizeList pending) pending (textLeaves pending) := by
  generalize hn : sizeList pending = n
  induction n generalizing pending with
  | zero =>
    cases pending with
    | nil =>
      rw [textLeaves]
      exact .done
    | cons v rest =>
      rw [sizeList, size_eq] at hn
      omega
  | succ n ih =>
    cases pending with
    | nil => cases hn
    | cons v rest =>
      rw [textLeaves_cons]
      refine .turn (ih _ ?_)
      rw [sizeList, size_eq] at hn
      rw [sizeList_append]
      omega

/-- **The walk over a value** comes to an end, after one turn for the value and for each value in
it. It finds the texts that the recursion lists, each one as often as it stands there, those that
lie less deep before the others, and those of one depth in document order. -/
theorem textLeaves_byDepth (v : Json) :
    (∀ turns found, Drains textHere children turns [v] found ↔
      turns = v.size ∧ found = textLeaves [v]) ∧
    ∃ found, textLeaves [v] = found.map (·.2) ∧ ByDepth (·.1) found (placedTexts 0 v) := by
  have hwalk : Drains textHere children v.size [v] (textLeaves [v]) := drains_textLeaves [v]
  have hhere (x : Nat × Json) : textHere x.2 = (placedHere x).map Prod.snd := by
    simp [placedHere, Function.comp_def]
  have hchildren (x : Nat × Json) : children x.2 = (placedChildren x).map Prod.snd := by
    simp [placedChildren, Function.comp_def]
  exact ⟨fun turns found => hwalk.iff_eq,
    hwalk.exists_byDepth listing_placedTexts Prod.snd Prod.snd hhere hchildren (0, v)⟩

example :
    textLeaves [.object [("k", .list [.text "x", .list []]), ("l", .text "y")]] = ["y", "x"] := by
  decide +kernel

end WorkflowRelease.Json
