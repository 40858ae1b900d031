import Mathlib.Data.List.Infix
import WorkflowRelease.Proofs.Expression.Rendered
import WorkflowRelease.Proofs.Governance.Mentioned
import WorkflowRelease.Proofs.Structure.Sound

/-!
# Braces left open

A body may hold opening braces. So where a text leaves braces open, the braces of an expression
behind it close them, and the expression is read as the end of what began there
(`bodies_around_of_leftOpen`). Where it leaves none open, the scanner begins afresh behind it
(`bodies_append`). Main statement: `found_unless_left_open`, when a reference to a parameter is
found in a text; `leftOpen_valid` is a workflow with one that is not.
-/

namespace WorkflowRelease

open Text

namespace Expression

/-- Nothing is left open: behind any two opening braces in a row a closing one follows. One more
opening brace is counted at the end, as an expression is to follow. -/
def Closed (cs : List Char) : Prop :=
  ∀ t ∈ (cs ++ ['\x7b']).tails, ['\x7b', '\x7b'] <+: t → '\x7d' ∈ t

instance (cs : List Char) : Decidable (Closed cs) :=
  inferInstanceAs (Decidable (∀ t ∈ _, _ → _))

/-- What stands behind the first opening braces that are left open, the first brace of the
expression that is to follow included. -/
def LeftOpen (cs v : List Char) : Prop :=
  ∃ u, cs ++ ['\x7b'] = u ++ '\x7b' :: '\x7b' :: v ∧ '\x7d' ∉ v ∧ Closed u

theorem closed_iff {cs : List Char} :
    Closed cs ↔ ∀ u v, cs ++ ['\x7b'] = u ++ '\x7b' :: '\x7b' :: v → '\x7d' ∈ v := by
  constructor
  · intro h u v huv
    have ht := h ('\x7b' :: '\x7b' :: v) ((List.mem_tails _ _).2 ⟨u, huv.symm⟩) ⟨v, rfl⟩
    simpa using ht
  · rintro h t ht ⟨v, rfl⟩
    obtain ⟨u, hu⟩ := (List.mem_tails _ _).1 ht
    exact List.mem_append_right _ (h u v hu.symm)

theorem not_closed_iff {cs : List Char} :
    ¬Closed cs ↔ ∃ u v, cs ++ ['\x7b'] = u ++ '\x7b' :: '\x7b' :: v ∧ '\x7d' ∉ v := by
  simp [closed_iff]

/-- The rest of a closed text is closed. -/
theorem Closed.of_append (cs : List Char) {ds : List Char} (h : Closed (cs ++ ds)) : Closed ds := by
  rw [closed_iff] at h ⊢
  intro u v huv
  exact h (cs ++ u) v (by rw [List.append_assoc, huv, List.append_assoc])

/-- If braces are left open, there are first ones. -/
theorem exists_leftOpen {cs : List Char} (h : ¬Closed cs) : ∃ v, LeftOpen cs v := by
  obtain ⟨u, v, huv, hv⟩ := not_closed_iff.1 h
  -- the text in front of braces left open may leave some open itself, but gets shorter
  induction hn : u.length using Nat.strong_induction_on generalizing u v with
  | _ n ih =>
    by_cases hu : Closed u
    · exact ⟨v, u, huv, hv, hu⟩
    · obtain ⟨u', v', huv', hv'⟩ := not_closed_iff.1 hu
      have hlength := congrArg List.length huv'
      simp only [List.length_append, List.length_cons, List.length_nil] at hlength
      refine ih u'.length (by omega) u' (v' ++ '\x7b' :: v) ?_ (by simp [hv, hv']) rfl
      calc cs ++ ['\x7b'] = u ++ ['\x7b'] ++ '\x7b' :: v := by simp [huv]
        _ = u' ++ '\x7b' :: '\x7b' :: (v' ++ '\x7b' :: v) := by simp [huv']

/-- A text without closing braces holds no expression. -/
theorem bodies_eq_nil {cs : List Char} (h : '\x7d' ∉ cs) : bodies cs = [] := by
  fun_induction bodies cs with
  | case1 => rfl
  | case2 cs body rest hbody ih =>
    rw [eq_append_of_body? hbody] at h
    simp at h
  | case3 cs hnone ih => exact ih fun hmem => h (List.mem_cons_of_mem _ hmem)
  | case4 c cs _ ih => exact ih fun hmem => h (List.mem_cons_of_mem _ hmem)

/-- What follows a closing brace makes no difference to a body, unless it is another one. -/
theorem body?_append_of_mem {cs : List Char} (h : '\x7d' ∈ cs) (ds : List Char) :
    body? (cs ++ '\x7b' :: ds) = (body? cs).map fun p => (p.1, p.2 ++ '\x7b' :: ds) := by
  obtain ⟨b, rest, rfl, hb⟩ := List.eq_append_cons_of_mem h
  rw [List.append_assoc, List.cons_append, body?_append hb, body?_append hb]
  split
  · rfl
  · cases rest with
    | nil => simp
    | cons c rest => by_cases hc : c = '\x7d' <;> simp [hc]

/-- **Behind a closed text** the scanner begins afresh at an opening brace. -/
theorem bodies_append {cs : List Char} (h : Closed cs) (ds : List Char) :
    bodies (cs ++ '\x7b' :: ds) = bodies cs ++ bodies ('\x7b' :: ds) := by
  have hclose : ∀ {cs}, Closed ('\x7b' :: '\x7b' :: cs) → '\x7d' ∈ cs := fun {cs} h => by
    simpa using closed_iff.1 h [] (cs ++ ['\x7b']) rfl
  fun_induction bodies cs with
  | case1 => rfl
  | case2 cs body rest hbody ih =>
    have happend := body?_append_of_mem (hclose h) ds
    rw [hbody, Option.map_some] at happend
    have hrest : Closed rest := by
      rw [eq_append_of_body? hbody] at h
      exact .of_append ('\x7b' :: '\x7b' :: (body ++ ['\x7d', '\x7d'])) (by simpa using h)
    rw [List.cons_append, List.cons_append, bodies_of_body? happend, ih hrest, List.cons_append]
  | case3 cs hnone ih =>
    have happend := body?_append_of_mem (hclose h) ds
    rw [hnone, Option.map_none] at happend
    rw [List.cons_append, List.cons_append, bodies_of_none happend]
    exact ih (.of_append ['\x7b'] h)
  | case4 c cs hne ih =>
    rw [List.cons_append, bodies.eq_3, ih (.of_append [c] h)]
    rintro cs' rfl heq
    cases cs with
    | nil => simpa using closed_iff.1 h [] [] rfl
    | cons d cs =>
      cases heq
      exact hne cs rfl rfl

/-! ## An expression in a text -/

section Around

variable {cs b v : List Char}

/-- Behind a closed text an expression is found as it stands. -/
theorem bodies_around_of_closed (h : Closed cs) (hne : b ≠ []) (hb : '\x7d' ∉ b)
    (ds : List Char) :
    bodies (cs ++ '\x7b' :: '\x7b' :: (b ++ '\x7d' :: '\x7d' :: ds)) =
      bodies cs ++ b :: bodies ds := by
  rw [bodies_append h, bodies_expression hne hb]

/-- Braces that are left open take in an expression that follows. -/
theorem bodies_around_of_leftOpen (h : LeftOpen cs v) (hb : '\x7d' ∉ b) (ds : List Char) :
    bodies (cs ++ '\x7b' :: '\x7b' :: (b ++ '\x7d' :: '\x7d' :: ds)) =
      bodies cs ++ (v ++ '\x7b' :: b) :: bodies ds := by
  obtain ⟨u, huv, hv, hu⟩ := h
  have htext : cs ++ '\x7b' :: '\x7b' :: (b ++ '\x7d' :: '\x7d' :: ds) =
      u ++ '\x7b' :: '\x7b' :: ((v ++ '\x7b' :: b) ++ '\x7d' :: '\x7d' :: ds) :=
    calc _ = cs ++ ['\x7b'] ++ '\x7b' :: (b ++ '\x7d' :: '\x7d' :: ds) := by simp
      _ = _ := by simp [huv]
  -- the part of the text in front that is behind those braces holds no expression
  have hcs : cs = u ++ '\x7b' :: ('\x7b' :: v).dropLast := by
    simpa using congrArg List.dropLast huv
  have htail : bodies ('\x7b' :: ('\x7b' :: v).dropLast) = [] := by
    refine bodies_eq_nil fun hmem => ?_
    rcases List.mem_cons.1 hmem with hbrace | hmem
    · exact absurd hbrace (by decide)
    · exact hv (by simpa using (List.dropLast_sublist _).subset hmem)
  have hbodies : bodies cs = bodies u := by rw [hcs, bodies_append hu, htail, List.append_nil]
  rw [htext, bodies_append hu, bodies_expression (by simp) (by simp [hv, hb]), hbodies]

end Around

/-- A bar parts a body from its fallback. -/
theorem ofBody?_append_bar {l : List Char} (hl : '|' ∉ l) (cs : List Char) :
    ofBody? (l ++ '|' :: cs) =
      (ofBody? l).map fun e => { e with fallback := nonempty? (trim cs) } := by
  simp only [ofBody?, breakAt_append hl, breakAt_of_not_mem hl]
  split
  · rfl
  · split <;> rfl

/-- In a body without a bar nothing is lost but blanks and a dot. -/
theorem mem_of_ofBody? {body : List Char} {e : Expression} (h : ofBody? body = some e)
    (hbar : '|' ∉ body) {c : Char} (hc : c ∈ body) (hblank : isBlank c = false) (hdot : c ≠ '.') :
    c ∈ e.scope.toList ∨ c ∈ e.path.toList := by
  have hparts := breakAt_eq '.' (trim body)
  have hmem := mem_trim hc hblank
  simp only [ofBody?, breakAt_of_not_mem hbar] at h
  split at h
  · cases h
  · rename_i scope path hbreak
    rw [hbreak] at hparts
    split at h
    · cases h
    · cases h
      rw [hparts] at hmem
      rw [String.toList_ofList, String.toList_ofList]
      rcases List.mem_append.1 hmem with hmem | hmem
      · exact .inl (mem_trim hmem hblank)
      · exact .inr (mem_trim ((List.mem_cons.1 hmem).resolve_left hdot) hblank)

/-! ## A parameter in a text -/

/-- The expression refers to the parameter. -/
def Names (e : Expression) (code : String) : Prop := e.scope = paramsScope ∧ e.path = code

/-- The body is that of a reference to the parameter. -/
def ReadsAs (body : List Char) (code : String) : Prop :=
  ∃ e, ofBody? body = some e ∧ e.Names code

/-- Some reference in the text is one to the parameter. -/
def Finds (text code : String) : Prop := ∃ e ∈ scan text, e.Names code

/-- A reference to the parameter as it is usually written. -/
def mention (code : String) : String := "\x7b\x7b params." ++ code ++ " \x7d\x7d"

/-- The braces left open have a fallback behind them, so what follows is only more of it, and what
they refer to is the same parameter. -/
def EndsInFallback (cs : List Char) (code : String) : Prop :=
  ∃ v, LeftOpen cs v ∧ '|' ∈ v ∧ ReadsAs v code

/-- The name of a parameter as the expressions can have it. -/
abbrev IsCode (code : String) : Prop := IsPart ['\x7b', '\x7d', '|', '.'] code

section Mention

variable {code : String}

theorem toList_mention (code : String) :
    (mention code).toList =
      '\x7b' :: '\x7b' :: (inner ⟨paramsScope, code, none⟩ .usual ++ ['\x7d', '\x7d']) := by
  simp [mention, inner, paramsScope, Gaps.usual]

theorem isWritable_of_isCode (h : IsCode code) : IsWritable ⟨paramsScope, code, none⟩ where
  scope := show IsPart _ paramsScope by decide +kernel
  path := ⟨h.1, h.2.1, fun c hc => h.2.2 c (by simp only [List.mem_cons] at hc ⊢; tauto)⟩
  fallback := nofun

/-- What is left open takes the reference in, and refers to the parameter itself in its fallback or
not at all. -/
theorem readsAs_append_iff (h : IsCode code) (v : List Char) :
    ReadsAs (v ++ '\x7b' :: inner ⟨paramsScope, code, none⟩ .usual) code ↔
      '|' ∈ v ∧ ReadsAs v code := by
  have hbrace : '\x7b' ∉ paramsScope.toList ∧ '\x7b' ∉ code.toList :=
    ⟨by decide, h.2.2 _ (by simp)⟩
  have hbar : '|' ∉ inner ⟨paramsScope, code, none⟩ .usual := by
    simp [inner, Gaps.usual, paramsScope, h.2.2 '|' (by simp)]
  by_cases hv : '|' ∈ v
  · obtain ⟨l, r, rfl, hl⟩ := List.eq_append_cons_of_mem hv
    simp [ReadsAs, ofBody?_append_bar hl, Names]
  · simp only [hv, false_and, iff_false]
    -- without a bar the brace in front of the reference is in the scope or in the path
    rintro ⟨e, he, hscope, hpath⟩
    have hmem := mem_of_ofBody? he (by simp [hv, hbar]) (c := '\x7b') (by simp) (by decide)
      (by decide)
    rw [hscope, hpath] at hmem
    exact hmem.elim hbrace.1 hbrace.2

/-- A reference in a text, whatever is around it. -/
theorem toList_around (before code after : String) :
    (before ++ mention code ++ after).toList = before.toList ++ '\x7b' :: '\x7b' ::
      (inner ⟨paramsScope, code, none⟩ .usual ++ '\x7d' :: '\x7d' :: after.toList) := by
  simp [toList_mention]

theorem scan_around_of_closed (h : IsCode code) {before : String} (hclosed : Closed before.toList)
    (after : String) :
    scan (before ++ mention code ++ after) =
      scan before ++ ⟨paramsScope, code, none⟩ :: scan after := by
  have hwritable := isWritable_of_isCode h
  rw [scan, toList_around, bodies_around_of_closed hclosed (by simp [inner])
    (not_mem_inner hwritable _), List.filterMap_append,
    List.filterMap_cons_some (ofBody?_inner hwritable _)]
  rfl

theorem finds_iff {text : String} : Finds text code ↔ ∃ b ∈ bodies text.toList, ReadsAs b code := by
  simp only [Finds, scan, List.mem_filterMap, ReadsAs]
  constructor
  · rintro ⟨e, ⟨b, hb, he⟩, hnames⟩
    exact ⟨b, hb, e, he, hnames⟩
  · rintro ⟨b, hb, e, he, hnames⟩
    exact ⟨e, ⟨b, hb, he⟩, hnames⟩

theorem finds_around_of_leftOpen (h : IsCode code) {before : String} {v : List Char}
    (hopen : LeftOpen before.toList v) (after : String) :
    Finds (before ++ mention code ++ after) code ↔
      ('|' ∈ v ∧ ReadsAs v code) ∨ Finds before code ∨ Finds after code := by
  rw [finds_iff, finds_iff, finds_iff, toList_around,
    bodies_around_of_leftOpen hopen (not_mem_inner (isWritable_of_isCode h) _),
    ← readsAs_append_iff h]
  simp only [List.mem_append, List.mem_cons, or_and_right, exists_or, exists_eq_left]
  exact or_left_comm

theorem finds_around_iff (h : IsCode code) (before after : String) :
    Finds (before ++ mention code ++ after) code ↔
      Closed before.toList ∨ EndsInFallback before.toList code ∨ Finds before code ∨
        Finds after code := by
  by_cases hclosed : Closed before.toList
  · simp only [hclosed, true_or, iff_true]
    exact ⟨⟨paramsScope, code, none⟩, by simp [scan_around_of_closed h hclosed], rfl, rfl⟩
  · simp only [hclosed, false_or]
    constructor
    · intro hfinds
      obtain ⟨v, hopen⟩ := exists_leftOpen hclosed
      exact ((finds_around_of_leftOpen h hopen after).1 hfinds).imp_left fun hv => ⟨v, hopen, hv⟩
    · rintro (⟨v, hopen, hv⟩ | hfinds)
      · exact (finds_around_of_leftOpen h hopen after).2 (.inl hv)
      · obtain ⟨v, hopen⟩ := exists_leftOpen hclosed
        exact (finds_around_of_leftOpen h hopen after).2 (.inr hfinds)

theorem mem_parameterCodes_of_finds (h : IsCode code) {values : List Json} {text : String}
    (hleaf : ∃ v ∈ values, v.HasText text) (hfinds : Finds text code) :
    code ∈ parameterCodes (inValues values) := by
  obtain ⟨v, hv, htext⟩ := hleaf
  obtain ⟨e, he, hscope, rfl⟩ := hfinds
  have hhead : e.head = e.path := by
    simp only [head, split_of_not_mem (h.2.2 '.' (by simp)), h.trim_eq, String.ofList_toList]
  exact mem_parameterCodes.2
    ⟨h.1, e, mem_inValues.2 ⟨v, hv, text, htext, he⟩, hscope, hhead⟩

end Mention

end Expression

open Expression

/-- **A parameter reference is found** in every text in which no braces are left open before it, and
then the rest of the text is read as if it were not there. If braces are left open, they take the
reference in, and the parameter is found only if they refer to it themselves, and the reference to
it is in their fallback, or if some other reference in the text is to it. A parameter that is found
is among the codes of all values in which the text stands. -/
theorem found_unless_left_open {code : String} (hcode : IsCode code) (before after : String) :
    (Closed before.toList → scan (before ++ mention code ++ after) =
      scan before ++ ⟨paramsScope, code, none⟩ :: scan after) ∧
    (Finds (before ++ mention code ++ after) code ↔
      Closed before.toList ∨ EndsInFallback before.toList code ∨ Finds before code ∨
        Finds after code) ∧
    ∀ values : List Json, (∃ v ∈ values, v.HasText (before ++ mention code ++ after)) →
      Finds (before ++ mention code ++ after) code →
        code ∈ parameterCodes (inValues values) :=
  ⟨fun hclosed => scan_around_of_closed hcode hclosed after, finds_around_iff hcode before after,
    fun _ hleaf hfinds => mem_parameterCodes_of_finds hcode hleaf hfinds⟩

/-- In front of the one reference braces are closed again, though not as they should be. In front of
the other one they are left open, by a reference to the same parameter with a fallback. -/
theorem found_unless_left_open_twice :
    IsCode "cap" ∧
    scan ("\x7b \x7b\x7b most \x7d of \x7d\x7d " ++ mention "cap" ++ " \x7b\x7b x.y \x7d\x7d") =
      [⟨"params", "cap", none⟩, ⟨"x", "y", none⟩] ∧
    "cap" ∈ parameterCodes (inValues
      [.list [.text ("\x7b\x7b params.cap | at \x7b\x7b most " ++ mention "cap" ++ "\x7d")]]) := by
  have hcode : IsCode "cap" := by decide +kernel
  obtain ⟨hscan, -, -⟩ := found_unless_left_open hcode "\x7b \x7b\x7b most \x7d of \x7d\x7d "
    " \x7b\x7b x.y \x7d\x7d"
  obtain ⟨-, hfinds, hcodes⟩ := found_unless_left_open hcode
    "\x7b\x7b params.cap | at \x7b\x7b most " "\x7d"
  have hfallback : EndsInFallback "\x7b\x7b params.cap | at \x7b\x7b most ".toList "cap" :=
    ⟨" params.cap | at \x7b\x7b most \x7b".toList, ⟨[], by decide +kernel, by decide +kernel,
      by decide +kernel⟩, by decide +kernel,
      ⟨"params", "cap", some "at \x7b\x7b most \x7b"⟩, by decide +kernel, rfl, rfl⟩
  refine ⟨hcode, (hscan (by decide +kernel)).trans (by decide +kernel), ?_⟩
  exact hcodes _ ⟨_, .head _, .item (.head _) (.here _)⟩ (hfinds.2 (.inr (.inl hfallback)))

open Structure.Sketch in
/-- A trigger, and a node that says something in its configuration. -/
def saying (text : String) : Workflow :=
  workflow .linear
    [node "t" "manual-trigger", { node "n" "notify" with config := [("limit", .text text)] }]
    [edge "t" "n"]

/-- With two braces in front of a text nothing in it is found, and a workflow that was not accepted
for the parameter it mentions is accepted. -/
theorem leftOpen_valid :
    IsCode "cap" ∧
    scan ("\x7b\x7b at most " ++ mention "cap" ++ "") =
      [⟨"at most \x7b\x7b params", "cap", none⟩] ∧
    ¬Finds ("\x7b\x7b at most " ++ mention "cap" ++ "") "cap" ∧
    parameterCodes (inValues [.text ("\x7b\x7b at most " ++ mention "cap" ++ "")]) = [] ∧
    Structure.validate [] (saying ("\x7b\x7b at most " ++ mention "cap" ++ "")) .save = .ok ⟨[]⟩ ∧
    ∃ verdict, Structure.validate [] (saying ("at most " ++ mention "cap" ++ "")) .save =
      .ok verdict ∧ verdict.codes = ["WF203"] := by
  have hscan : scan ("\x7b\x7b at most " ++ mention "cap" ++ "") =
      [⟨"at most \x7b\x7b params", "cap", none⟩] := by decide +kernel
  refine ⟨by decide +kernel, hscan, ?_, by decide +kernel, by decide +kernel,
    _, Structure.validate_save _ _, by decide +kernel⟩
  rintro ⟨e, he, hscope, -⟩
  rw [hscan, List.mem_singleton] at he
  subst he
  revert hscope
  decide

end WorkflowRelease
