/-!
# Blank characters

The characters that count as blank around a name, an expression or a code, and texts cleared of
them at both ends. Main statements: `trim_trim`, clearing twice is clearing once, `trim_around`,
blanks around a text make no difference, and `isBlankText_eq_false_iff`.
-/

namespace WorkflowRelease.Text

/-- White space of every script, and the four separators of plain text files. -/
def isBlank (c : Char) : Bool :=
  let n := c.toNat
  (9 ≤ n && n ≤ 13) || (28 ≤ n && n ≤ 32) || n == 0x85 || n == 0xa0 || n == 0x1680 ||
    (0x2000 ≤ n && n ≤ 0x200a) || n == 0x2028 || n == 0x2029 || n == 0x202f || n == 0x205f ||
    n == 0x3000

/-- The characters without the blanks at the end. -/
def trimRight : List Char → List Char
  | [] => []
  | c :: cs =>
    match trimRight cs with
    | [] => if isBlank c then [] else [c]
    | d :: ds => c :: d :: ds

/-- The characters without the blanks at both ends. -/
def trim (cs : List Char) : List Char := trimRight (cs.dropWhile isBlank)

/-- The text without the blanks at both ends. -/
def strip (s : String) : String := String.ofList (trim s.toList)

/-- The text has nothing but blanks. -/
def isBlankText (s : String) : Bool := strip s = ""

theorem trimRight_append_cons {c : Char} (h : isBlank c = false) (xs ys : List Char) :
    trimRight (xs ++ c :: ys) = xs ++ c :: trimRight ys := by
  induction xs with
  | nil => cases hr : trimRight ys <;> simp [trimRight, hr, h]
  | cons x xs ih =>
    rw [List.cons_append, trimRight, ih]
    cases xs <;> rfl

theorem trimRight_append_of_blank {b : List Char} (hb : ∀ c ∈ b, isBlank c = true)
    (cs : List Char) : trimRight (cs ++ b) = trimRight cs := by
  induction cs with
  | nil =>
    induction b with
    | nil => rfl
    | cons c b ih =>
      have hrest := ih fun d hd => hb d (List.mem_cons_of_mem _ hd)
      rw [List.nil_append] at hrest ⊢
      simp [trimRight, hrest, hb c List.mem_cons_self]
  | cons c cs ih => rw [List.cons_append, trimRight, trimRight, ih]

/-- What `trimRight` takes away is blank. -/
theorem exists_trimRight_append (cs : List Char) :
    ∃ b, (∀ c ∈ b, isBlank c = true) ∧ cs = trimRight cs ++ b := by
  induction cs with
  | nil => exact ⟨[], nofun, rfl⟩
  | cons c cs ih =>
    obtain ⟨b, hb, hcs⟩ := ih
    cases hr : trimRight cs with
    | nil =>
      rw [hr, List.nil_append] at hcs
      cases hc : isBlank c with
      | true => exact ⟨c :: cs, by simpa [hc, hcs] using hb, by simp [trimRight, hr, hc]⟩
      | false => exact ⟨cs, hcs ▸ hb, by simp [trimRight, hr, hc]⟩
    | cons d ds =>
      have htrim : trimRight (c :: cs) = c :: d :: ds := by simp [trimRight, hr]
      exact ⟨b, hb, by rw [htrim, List.cons_append, ← hr, ← hcs]⟩

/-- A nonblank character stays, with all before it up to the blanks in front and all behind it up to
the blanks at the end. -/
theorem trim_append_cons {c : Char} (h : isBlank c = false) (xs ys : List Char) :
    trim (xs ++ c :: ys) = xs.dropWhile isBlank ++ c :: trimRight ys := by
  have hdrop : (xs ++ c :: ys).dropWhile isBlank = xs.dropWhile isBlank ++ c :: ys := by
    cases hx : xs.dropWhile isBlank <;> simp [List.dropWhile_append, hx, h]
  rw [trim, hdrop, trimRight_append_cons h]

theorem mem_trim {c : Char} {cs : List Char} (hc : c ∈ cs) (h : isBlank c = false) :
    c ∈ trim cs := by
  obtain ⟨xs, ys, rfl⟩ := List.append_of_mem hc
  simp [trim_append_cons h]

/-- Blanks around a text make no difference. -/
theorem trim_around {b e : List Char} (hb : ∀ c ∈ b, isBlank c = true)
    (he : ∀ c ∈ e, isBlank c = true) (cs : List Char) : trim (b ++ cs ++ e) = trim cs := by
  rw [trim, List.append_assoc, List.dropWhile_append_of_pos hb, List.dropWhile_append, trim]
  cases hd : cs.dropWhile isBlank with
  | nil =>
    have hall : e.dropWhile isBlank = [] := by
      rw [← List.append_nil e, List.dropWhile_append_of_pos he, List.dropWhile_nil]
    simp [hall]
  | cons a r => exact trimRight_append_of_blank he _

theorem trim_dropWhile (cs : List Char) : trim (cs.dropWhile isBlank) = trim cs := by
  have h := trim_around (b := cs.takeWhile isBlank) (e := [])
    (fun c hc => List.all_eq_true.1 List.all_takeWhile c hc) nofun (cs.dropWhile isBlank)
  rw [List.append_nil, List.takeWhile_append_dropWhile] at h
  exact h.symm

theorem trim_trimRight (cs : List Char) : trim (trimRight cs) = trim cs := by
  obtain ⟨b, hb, hcs⟩ := exists_trimRight_append cs
  have h := trim_around (b := []) nofun hb (trimRight cs)
  rw [List.nil_append, ← hcs] at h
  exact h.symm

theorem trim_eq_nil_iff {cs : List Char} : trim cs = [] ↔ ∀ c ∈ cs, isBlank c = true := by
  constructor
  · intro h c hc
    cases hblank : isBlank c with
    | true => rfl
    | false => simpa [h] using mem_trim hc hblank
  · intro h
    simpa [trim, trimRight] using trim_around h (e := []) nofun []

/-- A text is not blank iff some character of it is not. -/
theorem isBlankText_eq_false_iff {s : String} :
    isBlankText s = false ↔ ∃ c ∈ s.toList, isBlank c = false := by
  have hempty : strip s = "" ↔ trim s.toList = [] := by simp [strip]
  rw [isBlankText, decide_eq_false_iff_not, hempty, trim_eq_nil_iff]
  simp

theorem trim_trim (cs : List Char) : trim (trim cs) = trim cs :=
  calc trim (trim cs) = trim (cs.dropWhile isBlank) := trim_trimRight _
    _ = trim cs := trim_dropWhile cs

@[simp] theorem strip_strip (s : String) : strip (strip s) = strip s := by
  simp [strip, trim_trim]

@[simp] theorem strip_empty : strip "" = "" := by simp [strip, trim, trimRight]

end WorkflowRelease.Text
