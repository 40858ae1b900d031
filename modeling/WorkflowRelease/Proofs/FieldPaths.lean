import Mathlib.Data.List.Infix
import Mathlib.Data.List.TakeDrop
import Mathlib.Data.List.TakeWhile
import WorkflowRelease.Workflow.FieldTypes

/-!
# Types of field paths

A path has the type that is declared for it, or else that of the closest ancestor that has one, once
its indexes are written as segments. Main statements: `rewrites_iff`, where a path is cut at its
indexes, and `resolve_closest`.
-/

namespace WorkflowRelease.FieldTypes

/-! ## Indexes -/

/-- A number as an index has it: decimal digits, of any script. -/
def IsNumber (ds : List Char) : Prop := ds ≠ [] ∧ ∀ c ∈ ds, Text.isDigit c = true

/-- No index stands in the text. -/
def IsPlain (cs : List Char) : Prop := ∀ ds, IsNumber ds → ¬ '[' :: (ds ++ [']']) <:+: cs

/-- Indexes in brackets, each with the text behind it. -/
def bracketedIndexes (indexes : List (List Char × List Char)) : List Char :=
  indexes.flatMap fun e => '[' :: (e.1 ++ ']' :: e.2)

/-- Indexes behind dots, each with the text behind it. -/
def dottedIndexes (indexes : List (List Char × List Char)) : List Char :=
  indexes.flatMap fun e => '.' :: (e.1 ++ e.2)

/-- A path cut at its indexes: what stands in front of the first one, and each index with what
stands behind it. -/
structure IndexedPath where
  front : List Char
  indexes : List (List Char × List Char)
  isPlain_front : IsPlain front
  isNumber : ∀ e ∈ indexes, IsNumber e.1
  isPlain : ∀ e ∈ indexes, IsPlain e.2

namespace IndexedPath

/-- The path as it is written. -/
def bracketed (p : IndexedPath) : List Char := p.front ++ bracketedIndexes p.indexes

/-- The path with its indexes written as segments. -/
def dotted (p : IndexedPath) : List Char := p.front ++ dottedIndexes p.indexes

end IndexedPath

/-- All indexes of the path are written as segments, and nothing else is changed. -/
def Rewrites (path rewritten : String) : Prop :=
  ∃ p : IndexedPath, p.bracketed = path.toList ∧ p.dotted = rewritten.toList

theorem index?_eq_some_iff {cs ds rest : List Char} :
    index? cs = some (ds, rest) ↔ IsNumber ds ∧ cs = ds ++ ']' :: rest := by
  constructor
  · intro h
    unfold index? at h
    split at h
    · cases h
    · rename_i htake hdrop
      cases h
      have hmem := fun c (hc : c ∈ cs.takeWhile Text.isDigit) => List.mem_takeWhile_imp hc
      rw [htake] at hmem
      exact ⟨⟨List.cons_ne_nil _ _, hmem⟩, by
        rw [← htake, ← hdrop, List.takeWhile_append_dropWhile]⟩
    · cases h
  · rintro ⟨⟨hne, hdigits⟩, rfl⟩
    have hbracket : Text.isDigit ']' = false := by decide
    rw [index?, List.takeWhile_append_of_pos hdigits, List.dropWhile_append_of_pos hdigits]
    cases ds with
    | nil => exact absurd rfl hne
    | cons d ds => simp [hbracket]

theorem dotIndexes_of_index? {cs ds rest : List Char} (h : index? cs = some (ds, rest)) :
    dotIndexes ('[' :: cs) = '.' :: (ds ++ dotIndexes rest) := by
  rw [dotIndexes]
  split
  · rename_i h'
    rw [h] at h'
    cases h'
    rfl
  · rename_i h'
    rw [h] at h'
    cases h'

theorem dotIndexes_of_none {cs : List Char} (h : index? cs = none) :
    dotIndexes ('[' :: cs) = '[' :: dotIndexes cs := by
  rw [dotIndexes]
  split
  · rename_i h'
    rw [h] at h'
    cases h'
  · rfl

/-- An opening bracket in a plain text opens no index, even if an index follows the text: it would
have a bracket among its digits. -/
theorem index?_append_of_plain {cs rest : List Char} (h : IsPlain ('[' :: cs))
    (hrest : ∀ c ∈ rest.head?, c = '[') : index? (cs ++ rest) = none := by
  refine Option.eq_none_iff_forall_ne_some.2 fun ⟨ds, after⟩ hsome => ?_
  obtain ⟨hds, happend⟩ := index?_eq_some_iff.1 hsome
  rcases List.append_eq_append_iff.1 happend with ⟨shared, rfl, rfl⟩ | ⟨shared, rfl, hshared⟩
  · cases shared with
    | nil => exact absurd (hrest ']' rfl) (by decide)
    | cons c shared =>
      have hdigit := hds.2 c (by simp)
      rw [hrest c rfl] at hdigit
      exact absurd hdigit (by decide)
  · cases shared with
    | nil =>
      rw [List.nil_append] at hshared
      exact absurd (hrest ']' (by simp [← hshared])) (by decide)
    | cons c shared =>
      obtain ⟨rfl, -⟩ := List.cons_eq_cons.1 hshared
      exact h ds hds ⟨[], shared, by simp⟩

/-- Plain texts stay as they are. -/
theorem dotIndexes_append {cs rest : List Char} (h : IsPlain cs)
    (hrest : ∀ c ∈ rest.head?, c = '[') : dotIndexes (cs ++ rest) = cs ++ dotIndexes rest := by
  induction cs with
  | nil => rfl
  | cons c cs ih =>
    have htail : IsPlain cs :=
      fun ds hds hin => h ds hds (hin.trans (List.suffix_cons c cs).isInfix)
    by_cases hc : c = '['
    · subst hc
      rw [List.cons_append, dotIndexes_of_none (index?_append_of_plain h hrest), ih htail,
        List.cons_append]
    · rw [List.cons_append, dotIndexes.eq_3 _ _ hc, ih htail,
        List.cons_append]

theorem dotIndexes_bracketedIndexes {indexes : List (List Char × List Char)}
    (hnumber : ∀ e ∈ indexes, IsNumber e.1) (hplain : ∀ e ∈ indexes, IsPlain e.2)
    {front : List Char} (hfront : IsPlain front) :
    dotIndexes (front ++ bracketedIndexes indexes) = front ++ dottedIndexes indexes := by
  induction indexes generalizing front with
  | nil =>
    rw [bracketedIndexes, List.flatMap_nil, dotIndexes_append hfront (by simp), dotIndexes]
    rfl
  | cons e es ih =>
    obtain ⟨hds, hnumber⟩ := List.forall_mem_cons.1 hnumber
    obtain ⟨hbehind, hplain⟩ := List.forall_mem_cons.1 hplain
    have hindex : index? (e.1 ++ ']' :: (e.2 ++ bracketedIndexes es)) =
        some (e.1, e.2 ++ bracketedIndexes es) :=
      index?_eq_some_iff.2 ⟨hds, rfl⟩
    have hcons : bracketedIndexes (e :: es) =
        '[' :: (e.1 ++ ']' :: (e.2 ++ bracketedIndexes es)) := by simp [bracketedIndexes]
    rw [hcons, dotIndexes_append hfront (by simp), dotIndexes_of_index? hindex,
      ih hnumber hplain hbehind]
    simp [dottedIndexes]

/-- Every path can be cut at its indexes. -/
theorem IndexedPath.exists_bracketed (cs : List Char) : ∃ p : IndexedPath, p.bracketed = cs := by
  have hnil : IsPlain [] := fun ds _ hin => by simp at hin
  fun_induction dotIndexes cs with
  | case1 => exact ⟨⟨[], [], hnil, by simp, by simp⟩, rfl⟩
  | case2 cs ds rest h ih =>
    obtain ⟨p, rfl⟩ := ih
    obtain ⟨hds, rfl⟩ := index?_eq_some_iff.1 h
    refine ⟨⟨[], (ds, p.front) :: p.indexes, hnil, ?_, ?_⟩, ?_⟩
    · exact List.forall_mem_cons.2 ⟨hds, p.isNumber⟩
    · exact List.forall_mem_cons.2 ⟨p.isPlain_front, p.isPlain⟩
    · simp [bracketed, bracketedIndexes]
  | case3 cs h ih =>
    obtain ⟨p, rfl⟩ := ih
    refine ⟨⟨'[' :: p.front, p.indexes, fun ds hds hin => ?_, p.isNumber, p.isPlain⟩, rfl⟩
    rcases List.infix_cons_iff.1 hin with hin | hin
    · -- an index that begins at the bracket would have been found there
      obtain ⟨after, hafter⟩ := (List.cons_prefix_cons.1 hin).2
      have hsome : index? p.bracketed = some (ds, after ++ bracketedIndexes p.indexes) :=
        index?_eq_some_iff.2 ⟨hds, by simp [bracketed, ← hafter]⟩
      rw [h] at hsome
      cases hsome
    · exact p.isPlain_front ds hds hin
  | case4 c cs hc ih =>
    obtain ⟨p, rfl⟩ := ih
    refine ⟨⟨c :: p.front, p.indexes, fun ds hds hin => ?_, p.isNumber, p.isPlain⟩, rfl⟩
    rcases List.infix_cons_iff.1 hin with hin | hin
    · exact hc (List.cons_prefix_cons.1 hin).1.symm
    · exact p.isPlain_front ds hds hin

/-- **There is one way to write the indexes of a path as segments**, and it is taken. -/
theorem rewrites_iff {path other : String} :
    Rewrites path other ↔ other = String.ofList (dotIndexes path.toList) := by
  have hdot (p : IndexedPath) : dotIndexes p.bracketed = p.dotted :=
    dotIndexes_bracketedIndexes p.isNumber p.isPlain p.isPlain_front
  constructor
  · rintro ⟨p, hpath, hother⟩
    rw [← hpath, hdot, hother, String.ofList_toList]
  · rintro rfl
    obtain ⟨p, hp⟩ := IndexedPath.exists_bracketed path.toList
    exact ⟨p, hp, by rw [← hdot, hp, String.toList_ofList]⟩

/-! ## Ancestors -/

/-- The path begins with the segments of the other one: it is the other one, or a dot follows it
there. -/
def IsAncestor (above path : String) : Prop := above = path ∨ ∃ rest, path = above ++ "." ++ rest

/-- The type is declared for an ancestor of the path, or for the path itself, and nothing is
declared for a longer one. -/
def IsClosest (types : FieldTypes) (path t : String) : Prop :=
  ∃ above, IsAncestor above path ∧ types.lookup above = some t ∧
    ∀ other, IsAncestor other path → (types.lookup other).isSome = true →
      other.length ≤ above.length

theorem isAncestor_iff {above path : String} :
    IsAncestor above path ↔
      above.toList = path.toList ∨ ∃ rest, path.toList = above.toList ++ '.' :: rest := by
  refine or_congr String.toList_inj.symm ⟨?_, ?_⟩
  · rintro ⟨rest, rfl⟩
    exact ⟨rest.toList, by simp⟩
  · rintro ⟨rest, hrest⟩
    exact ⟨String.ofList rest, String.toList_inj.1 (by simp [hrest])⟩

/-- The first segments of a path, as many as one likes but at least one, are an ancestor. -/
theorem exists_take_iff {path above : List Char} :
    (∃ i < (Text.split '.' path).length, Text.joinWith '.'
      ((Text.split '.' path).take ((Text.split '.' path).length - i)) = above) ↔
      above = path ∨ ∃ rest, path = above ++ '.' :: rest := by
  constructor
  · rintro ⟨i, hi, rfl⟩
    cases i with
    | zero => exact .inl (by rw [Nat.sub_zero, List.take_length, Text.joinWith_split])
    | succ i =>
      right
      have hjoin := Text.joinWith_split '.' path
      rw [← List.take_append_drop ((Text.split '.' path).length - (i + 1)) (Text.split '.' path),
        Text.joinWith_append] at hjoin
      · exact ⟨_, hjoin.symm⟩
      · exact List.ne_nil_of_length_pos (by rw [List.length_take]; omega)
      · exact List.ne_nil_of_length_pos (by rw [List.length_drop]; omega)
  · rintro (rfl | ⟨rest, rfl⟩)
    · refine ⟨0, List.length_pos_iff.2 (Text.split_ne_nil '.' above), ?_⟩
      rw [Nat.sub_zero, List.take_length, Text.joinWith_split]
    · have habove := List.length_pos_iff.2 (Text.split_ne_nil '.' above)
      refine ⟨(Text.split '.' rest).length, ?_, ?_⟩
      · rw [Text.split_append, List.length_append]
        omega
      · rw [Text.split_append, List.length_append, Nat.add_sub_cancel, List.take_left',
          Text.joinWith_split]
        rfl

theorem mem_ancestors {above path : String} :
    above ∈ ancestors path.toList ↔ IsAncestor above path := by
  rw [isAncestor_iff, ← exists_take_iff]
  simp only [ancestors, List.mem_map, List.mem_range, ← String.toList_inj, String.toList_ofList]

theorem length_joinWith_take_lt {ss : List (List Char)} {i j : Nat} (hi : 0 < i) (hij : i < j)
    (hj : j ≤ ss.length) :
    (Text.joinWith '.' (ss.take i)).length < (Text.joinWith '.' (ss.take j)).length := by
  have htake : ss.take j = ss.take i ++ (ss.take j).drop i := by
    have hsplit := List.take_append_drop i (ss.take j)
    rwa [List.take_take, Nat.min_eq_left (Nat.le_of_lt hij), eq_comm] at hsplit
  rw [htake, Text.joinWith_append, List.length_append, List.length_cons]
  · omega
  · exact List.ne_nil_of_length_pos (by rw [List.length_take]; omega)
  · exact List.ne_nil_of_length_pos (by rw [List.length_drop, List.length_take]; omega)

/-- The ancestors become shorter and shorter. -/
theorem pairwise_ancestors (path : List Char) :
    (ancestors path).Pairwise fun a b => b.length < a.length := by
  refine List.pairwise_map.2 (List.pairwise_lt_range.imp_of_mem fun {i j} hi hj hij => ?_)
  rw [List.mem_range] at hi hj
  simp only [String.length_ofList]
  exact length_joinWith_take_lt (by omega) (by omega) (by omega)

/-- The first of ever shorter texts with an answer is the longest one that has any. -/
theorem findSome?_eq_some_iff_of_pairwise {texts : List String} {f : String → Option String}
    (h : texts.Pairwise fun a b => b.length < a.length) {t : String} :
    texts.findSome? f = some t ↔
      ∃ a ∈ texts, f a = some t ∧ ∀ b ∈ texts, (f b).isSome = true → b.length ≤ a.length := by
  constructor
  · intro hfind
    obtain ⟨longer, a, shorter, rfl, ha, hnone⟩ := List.findSome?_eq_some_iff.1 hfind
    obtain ⟨-, hshorter, -⟩ := List.pairwise_append.1 h
    refine ⟨a, by simp, ha, fun b hb hsome => ?_⟩
    rcases List.mem_append.1 hb with hb | hb
    · rw [hnone b hb] at hsome
      cases hsome
    · rcases List.mem_cons.1 hb with rfl | hb
      · exact Nat.le_refl _
      · exact Nat.le_of_lt ((List.pairwise_cons.1 hshorter).1 b hb)
  · rintro ⟨a, hmem, ha, hlongest⟩
    obtain ⟨longer, shorter, rfl⟩ := List.append_of_mem hmem
    refine List.findSome?_eq_some_iff.2 ⟨longer, a, shorter, rfl, ha, fun b hb => ?_⟩
    have hlt := (List.pairwise_append.1 h).2.2 b hb a List.mem_cons_self
    rw [← Option.not_isSome_iff_eq_none]
    intro hsome
    exact Nat.not_le_of_lt hlt (hlongest b (by simp [hb]) hsome)

variable {types : FieldTypes} {path : String}

theorem resolve_of_none (h : types.lookup path = none) :
    types.resolve path =
      (ancestors (dotIndexes path.toList)).findSome? (List.lookup · types) := by
  rw [resolve, h]

theorem resolve_isSome_iff :
    (types.resolve path).isSome = true ↔ (types.lookup path).isSome = true ∨
      ∃ above, IsAncestor above (String.ofList (dotIndexes path.toList)) ∧
        (types.lookup above).isSome = true := by
  cases h : types.lookup path with
  | some t => simp [resolve, h]
  | none =>
    rw [resolve_of_none h, List.findSome?_isSome_iff]
    simp only [← mem_ancestors, String.toList_ofList, Option.isSome_none, Bool.false_eq_true,
      false_or]

/-- **The type of a path** is that which is declared for it. If there is none, its indexes are
written as segments, and it is the type of the longest ancestor of what comes out that has one; no
type is found iff none is declared for any of them. So more declarations never take a type away. -/
theorem resolve_closest (types : FieldTypes) (path : String) :
    (∀ t, types.lookup path = some t → types.resolve path = some t) ∧
    (∃ rewritten, (∀ other, Rewrites path other ↔ other = rewritten) ∧
      (types.lookup path = none →
        (∀ t, types.resolve path = some t ↔ types.IsClosest rewritten t) ∧
        (types.resolve path = none ↔
          ∀ above, IsAncestor above rewritten → types.lookup above = none))) ∧
    ∀ more : FieldTypes,
      (∀ key, (types.lookup key).isSome = true → (more.lookup key).isSome = true) →
        (types.resolve path).isSome = true → (more.resolve path).isSome = true := by
  refine ⟨fun t ht => resolve_of_mem ht, ⟨_, fun _ => rewrites_iff, fun h => ⟨fun t => ?_, ?_⟩⟩,
    fun more hmore => ?_⟩
  · rw [resolve_of_none h, findSome?_eq_some_iff_of_pairwise (pairwise_ancestors _)]
    simp only [IsClosest, ← mem_ancestors, String.toList_ofList]
  · rw [resolve_of_none h, List.findSome?_eq_none_iff]
    simp only [← mem_ancestors, String.toList_ofList]
  · rw [resolve_isSome_iff, resolve_isSome_iff]
    exact Or.imp (hmore path) fun ⟨above, habove, hsome⟩ => ⟨above, habove, hmore above hsome⟩

/-- The index of an item that is not declared leads to the list. -/
example : resolve [("items", "array"), ("items.0", "object")] "items[3].name" = some "array" := by
  decide +kernel

end WorkflowRelease.FieldTypes
