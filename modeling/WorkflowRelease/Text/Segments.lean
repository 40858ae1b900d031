/-!
# Segments of a text

A text cut at every occurrence of a separator, and at the first one. Main statement:
`joinWith_split`, no character is lost.
-/

namespace WorkflowRelease.Text

/-- The segments between the separators; there is always one more than there are separators. -/
def split (sep : Char) : List Char → List (List Char)
  | [] => [[]]
  | c :: cs =>
    if c = sep then [] :: split sep cs
    else
      match split sep cs with
      | [] => [[c]]
      | s :: ss => (c :: s) :: ss

/-- The segments in a row with the separator between them. -/
def joinWith (sep : Char) : List (List Char) → List Char
  | [] => []
  | [s] => s
  | s :: t :: ss => s ++ sep :: joinWith sep (t :: ss)

/-- What stands before the first separator, and what follows it. -/
def breakAt (sep : Char) : List Char → List Char × Option (List Char)
  | [] => ([], none)
  | c :: cs =>
    if c = sep then ([], some cs)
    else (c :: (breakAt sep cs).1, (breakAt sep cs).2)

theorem split_ne_nil (sep : Char) (cs : List Char) : split sep cs ≠ [] := by
  cases cs with
  | nil => simp [split]
  | cons c cs =>
    rw [split]
    split
    · simp
    · split <;> simp

theorem joinWith_split (sep : Char) (cs : List Char) : joinWith sep (split sep cs) = cs := by
  induction cs with
  | nil => rfl
  | cons c cs ih =>
    rw [split]
    split
    · rename_i h
      cases hs : split sep cs with
      | nil => exact absurd hs (split_ne_nil sep cs)
      | cons s ss => rw [hs] at ih; simp [joinWith, ih, h]
    · cases hs : split sep cs with
      | nil => exact absurd hs (split_ne_nil sep cs)
      | cons s ss =>
        rw [hs] at ih
        cases ss with
        | nil => simpa [joinWith] using ih
        | cons t ts => simpa [joinWith] using ih

theorem split_of_not_mem {sep : Char} {s : List Char} (h : sep ∉ s) : split sep s = [s] := by
  induction s with
  | nil => rfl
  | cons c cs ih =>
    simp only [List.mem_cons, not_or] at h
    rw [split, if_neg (Ne.symm h.1), ih h.2]

/-- A separator parts the segments on its left from those on its right. -/
theorem split_append (sep : Char) (s cs : List Char) :
    split sep (s ++ sep :: cs) = split sep s ++ split sep cs := by
  induction s with
  | nil => simp [split]
  | cons c s ih =>
    rw [List.cons_append, split, split, ih]
    split
    · rfl
    · cases hs : split sep s with
      | nil => exact absurd hs (split_ne_nil sep s)
      | cons t ts => rfl

theorem split_append_sep {sep : Char} {s : List Char} (h : sep ∉ s) (cs : List Char) :
    split sep (s ++ sep :: cs) = s :: split sep cs := by
  rw [split_append, split_of_not_mem h, List.singleton_append]

theorem joinWith_append {sep : Char} {ss ts : List (List Char)} (hs : ss ≠ []) (ht : ts ≠ []) :
    joinWith sep (ss ++ ts) = joinWith sep ss ++ sep :: joinWith sep ts := by
  induction ss with
  | nil => exact absurd rfl hs
  | cons s ss ih =>
    cases ss with
    | nil =>
      cases ts with
      | nil => exact absurd rfl ht
      | cons t ts => rfl
    | cons t ss =>
      rw [List.cons_append, List.cons_append, joinWith, ← List.cons_append, ih (by simp), joinWith,
        List.append_assoc, List.cons_append]

theorem breakAt_eq (sep : Char) (cs : List Char) :
    cs = (breakAt sep cs).1 ++
      (match (breakAt sep cs).2 with | none => [] | some r => sep :: r) := by
  induction cs with
  | nil => rfl
  | cons c cs ih =>
    rw [breakAt]
    split
    · rename_i h; simp [h]
    · simpa using ih

theorem breakAt_of_not_mem {sep : Char} {s : List Char} (h : sep ∉ s) :
    breakAt sep s = (s, none) := by
  induction s with
  | nil => rfl
  | cons c s ih =>
    simp only [List.mem_cons, not_or] at h
    rw [breakAt, if_neg (Ne.symm h.1), ih h.2]

theorem breakAt_append {sep : Char} {s : List Char} (h : sep ∉ s) (cs : List Char) :
    breakAt sep (s ++ sep :: cs) = (s, some cs) := by
  induction s with
  | nil => simp [breakAt]
  | cons c s ih =>
    simp only [List.mem_cons, not_or] at h
    rw [List.cons_append, breakAt, if_neg (Ne.symm h.1), ih h.2]

/-- The part stands somewhere in the text. -/
def occurs (part : List Char) : List Char → Bool
  | [] => part.isEmpty
  | c :: cs => part.isPrefixOf (c :: cs) || occurs part cs

theorem occurs_iff {part cs : List Char} : occurs part cs = true ↔ part <:+: cs := by
  induction cs with
  | nil => simp [occurs]
  | cons c cs ih => simp [occurs, ih, List.infix_cons_iff]

end WorkflowRelease.Text
