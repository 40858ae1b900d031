import WorkflowRelease.Expression.Scan

/-!
# Rendered templates

A template is written as literal texts and expressions in a row, with blanks wherever an expression
may have them. The scanner takes the body of each expression whole (`bodies_expression`), passes
over literal texts (`bodies_append_of_not_mem`) and reads a body back (`ofBody?_inner`). Main
statement: `scan_render`, the references in a rendered template are those it was made of.
-/

namespace WorkflowRelease

open Text

/-- A part of an expression: neither blank nor with blanks around it, and without the characters
that would end it. -/
def IsPart (ends : List Char) (s : String) : Prop :=
  s ≠ "" ∧ strip s = s ∧ ∀ c ∈ ends, c ∉ s.toList

-- the characters are gone through in the list, for there are too many of them otherwise
instance (ends : List Char) (s : String) : Decidable (IsPart ends s) :=
  have : Decidable (∀ c ∈ ends, c ∉ s.toList) := List.decidableBAll _ ends
  inferInstanceAs (Decidable (_ ∧ _ ∧ _))

namespace IsPart

variable {ends : List Char} {s : String}

theorem trim_eq (h : IsPart ends s) : trim s.toList = s.toList := by
  simpa [strip] using congrArg String.toList h.2.1

theorem toList_ne_nil (h : IsPart ends s) : s.toList ≠ [] := by simpa using h.1

end IsPart

/-- A row of blanks. -/
structure Blanks where
  chars : List Char
  blank : ∀ c ∈ chars, isBlank c = true

theorem Blanks.not_mem (b : Blanks) {c : Char} (hc : isBlank c = false) : c ∉ b.chars := by
  intro hmem
  rw [b.blank c hmem] at hc
  cases hc

theorem trim_blanks (b b' : Blanks) (cs : List Char) :
    trim (b.chars ++ cs ++ b'.chars) = trim cs :=
  trim_around b.blank b'.blank cs

namespace Expression

/-! ## The body of an expression -/

/-- The first closing brace decides: the body is what is before it, and another one follows. -/
theorem body?_append {b : List Char} (hb : '\x7d' ∉ b) (cs : List Char) :
    body? (b ++ '\x7d' :: cs) = if b = [] then none else
      match cs with
      | '\x7d' :: rest => some (b, rest)
      | _ => none := by
  have hall : ∀ c ∈ b, decide (c ≠ '\x7d') = true := fun c hc =>
    decide_eq_true fun h => hb (h ▸ hc)
  rw [body?, List.takeWhile_append_of_pos hall, List.dropWhile_append_of_pos hall]
  cases b with
  | nil => simp
  | cons c b =>
    cases cs with
    | nil => simp
    | cons d cs => by_cases hd : d = '\x7d' <;> simp [hd]

/-- A body and what follows it make up the text, with two closing braces between them. -/
theorem eq_append_of_body? {cs b rest : List Char} (h : body? cs = some (b, rest)) :
    cs = b ++ '\x7d' :: '\x7d' :: rest := by
  unfold body? at h
  split at h
  · cases h
  · rename_i htake hdrop
    cases h
    rw [← htake, ← hdrop, List.takeWhile_append_dropWhile]
  · cases h

theorem bodies_of_body? {cs b rest : List Char} (h : body? cs = some (b, rest)) :
    bodies ('\x7b' :: '\x7b' :: cs) = b :: bodies rest := by
  rw [bodies]
  split
  · rename_i h'
    rw [h] at h'
    cases h'
    rfl
  · rename_i h'
    rw [h] at h'
    cases h'

theorem bodies_of_none {cs : List Char} (h : body? cs = none) :
    bodies ('\x7b' :: '\x7b' :: cs) = bodies ('\x7b' :: cs) := by
  rw [bodies]
  split
  · rename_i h'
    rw [h] at h'
    cases h'
  · rfl

theorem bodies_expression {b : List Char} (hne : b ≠ []) (hb : '\x7d' ∉ b) (rest : List Char) :
    bodies ('\x7b' :: '\x7b' :: (b ++ '\x7d' :: '\x7d' :: rest)) = b :: bodies rest :=
  bodies_of_body? (by simp [body?_append hb, hne])

/-- Text without opening braces is passed over. -/
theorem bodies_append_of_not_mem {s : List Char} (h : '\x7b' ∉ s) (cs : List Char) :
    bodies (s ++ cs) = bodies cs := by
  induction s with
  | nil => rfl
  | cons c s ih =>
    simp only [List.mem_cons, not_or] at h
    rw [List.cons_append, bodies.eq_3 _ _ fun _ hc _ => h.1 hc.symm, ih h.2]

/-- A body is read by its first bar and, in what is before it, by its first dot. -/
theorem ofBody?_of_breakAt {body l r : List Char} {fallback : Option (List Char)}
    (h : breakAt '|' body = (l ++ '.' :: r, fallback)) (hdot : '.' ∉ l) (hl : trim l ≠ [])
    (hr : trim r ≠ []) :
    ofBody? body = some ⟨String.ofList (trim l), String.ofList (trim r),
      fallback.bind fun f => nonempty? (trim f)⟩ := by
  have hdrop : '.' ∉ l.dropWhile isBlank := fun hmem => hdot ((List.dropWhile_suffix _).subset hmem)
  simp only [ofBody?, h, trim_append_cons (c := '.') (by decide), breakAt_append hdrop,
    trim_dropWhile, trim_trimRight, hl, hr, or_self, if_false]

/-! ## Writing expressions -/

/-- The blanks at the places where an expression may have some. -/
structure Gaps where
  opening : Blanks
  beforeDot : Blanks
  afterDot : Blanks
  beforeBar : Blanks
  afterBar : Blanks
  closing : Blanks

/-- One blank inside of the braces and on both sides of the bar. -/
def Gaps.usual : Gaps :=
  let none : Blanks := ⟨[], nofun⟩
  let one : Blanks := ⟨[' '], List.forall_mem_singleton.2 rfl⟩
  ⟨one, none, none, one, one, one⟩

/-- No blanks. -/
def Gaps.tight : Gaps :=
  let none : Blanks := ⟨[], nofun⟩
  ⟨none, none, none, none, none, none⟩

/-- The expression has parts that can be told apart when it is written. -/
structure IsWritable (e : Expression) : Prop where
  scope : IsPart ['.', '|', '\x7d'] e.scope
  path : IsPart ['|', '\x7d'] e.path
  fallback : ∀ f ∈ e.fallback, IsPart ['\x7d'] f

/-- What is written between the braces. -/
def inner (e : Expression) (g : Gaps) : List Char :=
  g.opening.chars ++ e.scope.toList ++ g.beforeDot.chars ++ '.' ::
    (g.afterDot.chars ++ e.path.toList ++
      match e.fallback with
      | none => g.closing.chars
      | some f => g.beforeBar.chars ++ '|' :: (g.afterBar.chars ++ f.toList ++ g.closing.chars))

variable {e : Expression}

theorem not_mem_inner (h : e.IsWritable) (g : Gaps) : '\x7d' ∉ e.inner g := by
  have hblank : ∀ b : Blanks, '\x7d' ∉ b.chars := fun b => b.not_mem (by decide)
  have hscope := h.scope.2.2 '\x7d' (by simp)
  have hpath := h.path.2.2 '\x7d' (by simp)
  rw [inner]
  cases hf : e.fallback with
  | none => simp [hblank, hscope, hpath]
  | some f => simp [hblank, hscope, hpath, (h.fallback f hf).2.2 '\x7d' (by simp)]

theorem nonempty?_toList {s : String} (h : s.toList ≠ []) : nonempty? s.toList = some s := by
  rw [nonempty?, if_neg h, String.ofList_toList]

/-- **A body is read back** as the expression that was written. -/
theorem ofBody?_inner (h : e.IsWritable) (g : Gaps) : ofBody? (e.inner g) = some e := by
  let left := g.opening.chars ++ e.scope.toList ++ g.beforeDot.chars
  let right (b : Blanks) := g.afterDot.chars ++ e.path.toList ++ b.chars
  have hleft : trim left = e.scope.toList := by rw [trim_blanks, h.scope.trim_eq]
  have hright : ∀ b, trim (right b) = e.path.toList := fun b => by
    rw [trim_blanks, h.path.trim_eq]
  have hdot : '.' ∉ left := by
    simp [left, Blanks.not_mem _ (c := '.') (by decide), h.scope.2.2 '.' (by simp)]
  have hbar : ∀ b, '|' ∉ left ++ '.' :: right b := fun b => by
    simp [left, right, Blanks.not_mem _ (c := '|') (by decide), h.scope.2.2 '|' (by simp),
      h.path.2.2 '|' (by simp)]
  have hread : ∀ {body fallback} (b : Blanks),
      breakAt '|' body = (left ++ '.' :: right b, fallback) →
      ofBody? body = some ⟨e.scope, e.path, fallback.bind fun f => nonempty? (trim f)⟩ := by
    intro body fallback b hbreak
    rw [ofBody?_of_breakAt hbreak hdot (by rw [hleft]; exact h.scope.toList_ne_nil)
      (by rw [hright]; exact h.path.toList_ne_nil), hleft, hright, String.ofList_toList,
      String.ofList_toList]
  obtain ⟨scope, path, fallback⟩ := e
  cases fallback with
  | none => exact hread g.closing (breakAt_of_not_mem (hbar g.closing))
  | some f =>
    have hf := h.fallback f rfl
    have hbody : inner ⟨scope, path, some f⟩ g = (left ++ '.' :: right g.beforeBar) ++
        '|' :: (g.afterBar.chars ++ f.toList ++ g.closing.chars) := by
      simp [inner, left, right]
    rw [hbody, hread g.beforeBar (breakAt_append (hbar g.beforeBar) _), Option.bind_some,
      trim_blanks, hf.trim_eq, nonempty?_toList hf.toList_ne_nil]

end Expression

/-! ## Templates -/

/-- A piece of a template: a literal text, or an expression with its blanks. -/
inductive Piece where
  | literal (text : String)
  | reference (e : Expression) (gaps : Expression.Gaps)

namespace Piece

/-- What is written for a piece. -/
def chars : Piece → List Char
  | literal text => text.toList
  | reference e g => '\x7b' :: '\x7b' :: (e.inner g ++ ['\x7d', '\x7d'])

def expression? : Piece → Option Expression
  | literal _ => none
  | reference e _ => some e

/-- The piece keeps to itself: a literal text opens nothing, and an expression can be written. -/
def IsPlain : Piece → Prop
  | literal text => '\x7b' ∉ text.toList
  | reference e _ => e.IsWritable

end Piece

/-- The text of a template. -/
def render (pieces : List Piece) : String := String.ofList (pieces.flatMap Piece.chars)

/-- **What is rendered is found again:** the references in the text of a template are those that it
was made of, in their order. -/
theorem scan_render {pieces : List Piece} (h : ∀ p ∈ pieces, p.IsPlain) :
    Expression.scan (render pieces) = pieces.filterMap Piece.expression? := by
  rw [Expression.scan, render, String.toList_ofList]
  induction pieces with
  | nil => simp [Expression.bodies]
  | cons p pieces ih =>
    have hp := h p List.mem_cons_self
    have hrest := ih fun q hq => h q (List.mem_cons_of_mem _ hq)
    rw [List.flatMap_cons]
    cases p with
    | literal text =>
      rw [Piece.chars, Expression.bodies_append_of_not_mem hp, hrest]
      rfl
    | reference e g =>
      have hne : e.inner g ≠ [] := by simp [Expression.inner]
      have hbody : Piece.chars (.reference e g) ++ pieces.flatMap Piece.chars =
          '\x7b' :: '\x7b' :: (e.inner g ++ '\x7d' :: '\x7d' :: pieces.flatMap Piece.chars) := by
        simp [Piece.chars]
      rw [hbody, Expression.bodies_expression hne (Expression.not_mem_inner hp g),
        List.filterMap_cons_some (Expression.ofBody?_inner hp g), hrest]
      rfl

/-- Closing braces in a literal text, braces, bars and dots in a path and in a fallback, and two
expressions side by side. -/
def crowded : List Piece :=
  [.literal "most\x7d\x7d ",
    .reference ⟨"params", "risk.\x7bmax", some "1|0 \x7b\x7b x.y"⟩ .usual,
    .reference ⟨"\x7ba", ".b", none⟩ .tight, .literal "\x7d"]

theorem scan_render_crowded :
    (∀ p ∈ crowded, p.IsPlain) ∧
    render crowded = "most\x7d\x7d \x7b\x7b params.risk.\x7bmax | 1|0 \x7b\x7b x.y \x7d\x7d" ++
      "\x7b\x7b\x7ba..b\x7d\x7d\x7d" ∧
    Expression.scan (render crowded) =
      [⟨"params", "risk.\x7bmax", some "1|0 \x7b\x7b x.y"⟩, ⟨"\x7ba", ".b", none⟩] := by
  have hplain : ∀ p ∈ crowded, p.IsPlain := by
    have hfirst : Expression.IsWritable ⟨"params", "risk.\x7bmax", some "1|0 \x7b\x7b x.y"⟩ :=
      ⟨by decide +kernel, by decide +kernel, by rintro _ ⟨⟩; decide +kernel⟩
    have hsecond : Expression.IsWritable ⟨"\x7ba", ".b", none⟩ :=
      ⟨by decide +kernel, by decide +kernel, nofun⟩
    have hliterals : '\x7b' ∉ "most\x7d\x7d ".toList ∧ '\x7b' ∉ "\x7d".toList := by decide
    simp only [crowded, List.forall_mem_cons]
    exact ⟨hliterals.1, hfirst, hsecond, hliterals.2, nofun⟩
  exact ⟨hplain, by decide +kernel, scan_render hplain⟩

end WorkflowRelease
