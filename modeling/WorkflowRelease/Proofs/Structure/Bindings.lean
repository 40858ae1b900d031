import WorkflowRelease.Proofs.Governance.Mentioned
import WorkflowRelease.Proofs.Structure.Reordered

/-!
# What input bindings refer to

The rule on bindings walks the objects of a node's bindings and takes a list for a leaf, whereas the
walk that looks for parameters goes down into lists. So a text of the bindings is either bound, that
is behind objects alone, or listed (`Json.hasText_iff`), and the rule finds nothing iff every
reference in a bound text resolves (`bindingSources_eq_nil_iff`). Main statement: in a workflow that
is valid for saving all references in bound texts resolve, and all references in any text do iff
those in listed texts do (`references_resolve_of_valid`).
-/

namespace WorkflowRelease

namespace Json

/-- A text stands in a value, behind objects alone. -/
inductive Binds : Json → String → Prop
  | here (s : String) : Binds (.text s) s
  | entry {fields : List (String × Json)} {v : Json} {s : String}
      (mem : v ∈ Fields.values fields) (binds : Binds v s) : Binds (.object fields) s

/-- A text stands in a list of a value. -/
inductive Lists : Json → String → Prop
  | item {items : List Json} {v : Json} {s : String} (mem : v ∈ items) (has : HasText v s) :
      Lists (.list items) s
  | entry {fields : List (String × Json)} {v : Json} {s : String}
      (mem : v ∈ Fields.values fields) (lists : Lists v s) : Lists (.object fields) s

/-- A text of a value stands behind objects alone or in a list. -/
theorem hasText_iff {v : Json} {s : String} : HasText v s ↔ Binds v s ∨ Lists v s := by
  constructor
  · intro h
    induction h with
    | here s => exact .inl (.here s)
    | item mem has => exact .inr (.item mem has)
    | entry mem _ ih => exact ih.imp (.entry mem) (.entry mem)
  · rintro (h | h)
    · induction h with
      | here s => exact .here s
      | entry mem _ ih => exact .entry mem ih
    · induction h with
      | item mem has => exact .item mem has
      | entry mem _ ih => exact .entry mem ih

/-- One level of an object: a bound text is a value of it or bound in a value that is an object. -/
theorem binds_object {o : Fields} {s : String} :
    Binds (.object o) s ↔
      .text s ∈ o.values ∨ ∃ inner, .object inner ∈ o.values ∧ Binds (.object inner) s := by
  constructor
  · rintro (_ | ⟨mem, _ | ⟨mem', binds⟩⟩)
    · exact .inl mem
    · exact .inr ⟨_, mem, .entry mem' binds⟩
  · rintro (mem | ⟨inner, mem, binds⟩)
    · exact .entry mem (.here s)
    · exact .entry mem binds

theorem exists_mem_entriesHere {above : String} {o : Fields} {s : String} :
    (∃ path, (path, .text s) ∈ entriesHere above o) ↔ .text s ∈ o.values := by
  simp only [entriesHere, List.mem_filterMap, Fields.values, List.mem_map]
  constructor
  · rintro ⟨path, e, he, hleaf⟩
    refine ⟨e, he, ?_⟩
    split at hleaf <;> simp_all
  · rintro ⟨e, he, htext⟩
    exact ⟨pathBelow above e.1, e, he, by simp [htext]⟩

theorem exists_mem_objectsHere {above : String} {o : Fields} {P : Fields → Prop} :
    (∃ e ∈ objectsHere above o, P e.2) ↔ ∃ inner, .object inner ∈ o.values ∧ P inner := by
  simp only [objectsHere, List.mem_filterMap, Fields.values, List.mem_map]
  constructor
  · rintro ⟨e, ⟨e', he', hobject⟩, hP⟩
    split at hobject
    · rename_i inner hinner
      cases hobject
      exact ⟨inner, ⟨e', he', hinner⟩, hP⟩
    · cases hobject
  · rintro ⟨inner, ⟨e, he, hinner⟩, hP⟩
    exact ⟨(pathBelow above e.1, inner), ⟨e, he, by simp [hinner]⟩, hP⟩

/-- **The walk over objects** finds the texts that are bound in the objects of its queue, and no
other. -/
theorem exists_mem_leafEntries {pending : List (String × Fields)} {s : String} :
    (∃ path, (path, .text s) ∈ leafEntries pending) ↔
      ∃ e ∈ pending, Binds (.object e.2) s := by
  fun_induction leafEntries pending with
  | case1 => simp
  | case2 above o rest ih =>
    have hinner : (∃ e ∈ objectsHere above o, Binds (.object e.2) s) ↔
        ∃ inner, .object inner ∈ o.values ∧ Binds (.object inner) s :=
      exists_mem_objectsHere (P := fun inner => Binds (.object inner) s)
    simp only [List.mem_append, exists_or, or_and_right] at ih ⊢
    rw [ih, exists_mem_entriesHere, hinner, List.exists_mem_cons_iff, binds_object, or_assoc,
      or_comm (a := ∃ inner, _)]

end Json

/-- A reference of a node's bindings to another node, in a text that stands there in some way. A
parameter or something about the run is no reference to a node. -/
def Workflow.Refers (w : Workflow) (stands : Json → String → Prop) (ref : Expression) : Prop :=
  ∃ n ∈ w.nodes, ∃ o, n.inputBindings = some o ∧
    ∃ s, stands (.object o) s ∧ ref ∈ Expression.scan s ∧
      ref.scope ≠ Expression.paramsScope ∧ ref.scope ≠ Expression.metaScope

/-- The scope of a reference is a node of the workflow, and its path is one of the outputs that the
node declares, if it declares any. -/
def Workflow.Resolves (w : Workflow) (ref : Expression) : Prop :=
  ∃ n ∈ w.nodes, n.id = ref.scope ∧
    ∀ outputs, FieldTypes.outputs? n = some outputs → (outputs.resolve ref.path).isSome = true

namespace Structure

theorem mem_boundReferences {o : Fields} {ref : Expression} :
    (∃ path, (path, ref) ∈ boundReferences (.object o)) ↔
      ∃ s, Json.Binds (.object o) s ∧ ref ∈ Expression.scan s := by
  have hwalk (s : String) : (∃ path, (path, .text s) ∈ Json.leafEntries [("", o)]) ↔
      Json.Binds (.object o) s := by
    rw [Json.exists_mem_leafEntries]
    simp only [List.mem_singleton, exists_eq_left]
  simp only [← hwalk, boundReferences, Json.flatten, List.mem_flatMap]
  constructor
  · rintro ⟨path, ⟨at', v⟩, he, href⟩
    cases v with
    | text s =>
      obtain ⟨ref', href', heq⟩ := List.mem_map.1 href
      cases heq
      exact ⟨s, ⟨at', he⟩, href'⟩
    | _ => cases href
  · rintro ⟨s, ⟨path, he⟩, href⟩
    exact ⟨path, _, he, List.mem_map.2 ⟨ref, href, rfl⟩⟩

variable {w : Workflow}

theorem referenceFault?_eq_none_iff (hnodes : (Graph.ofWorkflow w).nodes = w.nodes) {n : Node}
    {ref : Expression} (hparams : ref.scope ≠ Expression.paramsScope)
    (hmeta : ref.scope ≠ Expression.metaScope) :
    referenceFault? (Graph.ofWorkflow w) n ref = none ↔ w.Resolves ref := by
  have hnode? (m : Node) : (Graph.ofWorkflow w).node? ref.scope = some m ↔
      m ∈ w.nodes ∧ m.id = ref.scope := by
    rw [Graph.node?_eq_some_iff (Graph.nodup_ids w), hnodes]
  rw [referenceFault?, if_neg (by simp [hparams, hmeta])]
  constructor
  · intro h
    split at h
    · cases h
    · rename_i m hm
      obtain ⟨hmem, hid⟩ := (hnode? m).1 hm
      refine ⟨m, hmem, hid, fun outputs houtputs => ?_⟩
      simpa [houtputs, Option.isSome_iff_ne_none] using h
  · rintro ⟨m, hmem, hid, hpath⟩
    rw [(hnode? m).2 ⟨hmem, hid⟩]
    cases houtputs : FieldTypes.outputs? m with
    | none => simp [houtputs]
    | some outputs => simp [houtputs, hpath outputs houtputs]

/-- **The rule on bindings** finds nothing iff every reference in a bound text resolves. -/
theorem bindingSources_eq_nil_iff (hnodes : (Graph.ofWorkflow w).nodes = w.nodes) :
    bindingSources (Graph.ofWorkflow w) = [] ↔ ∀ ref, w.Refers Json.Binds ref → w.Resolves ref := by
  simp only [bindingSources, List.flatMap_eq_nil_iff, List.filterMap_eq_nil_iff, hnodes]
  constructor
  · rintro h ref ⟨n, hn, o, ho, s, hs, href, hparams, hmeta⟩
    obtain ⟨path, hpath⟩ := mem_boundReferences.2 ⟨s, hs, href⟩
    have hnone := h n hn (path, ref) (by simpa [bindingsOf, ho] using hpath)
    exact (referenceFault?_eq_none_iff hnodes hparams hmeta).1 hnone
  · rintro h n hn ⟨path, ref⟩ href
    by_cases hscope : ref.scope = Expression.paramsScope ∨ ref.scope = Expression.metaScope
    · rw [referenceFault?, if_pos hscope]
    · obtain ⟨hparams, hmeta⟩ := not_or.1 hscope
      cases ho : n.inputBindings with
      | none => simp [bindingsOf, ho, boundReferences, Json.flatten] at href
      | some o =>
        rw [bindingsOf, ho] at href
        obtain ⟨s, hs, hscan⟩ := mem_boundReferences.1 ⟨path, href⟩
        exact (referenceFault?_eq_none_iff hnodes hparams hmeta).2
          (h ref ⟨n, hn, o, ho, s, hs, hscan, hparams, hmeta⟩)

end Structure

/-! ## References of accepted workflows -/

open Structure.Sketch

/-- **In a workflow that is valid for saving** every reference in a bound text resolves, and every
reference in any text of a node's bindings does iff those in listed texts do. -/
theorem references_resolve_of_valid {outputTypes : List String} {w : Workflow} {verdict : Verdict}
    (h : Structure.validate outputTypes w .save = .ok verdict) (hvalid : verdict.valid = true) :
    (∀ ref, w.Refers Json.Binds ref → w.Resolves ref) ∧
    ((∀ ref, w.Refers Json.HasText ref → w.Resolves ref) ↔
      ∀ ref, w.Refers Json.Lists ref → w.Resolves ref) := by
  have hbound : ∀ ref, w.Refers Json.Binds ref → w.Resolves ref :=
    (Structure.bindingSources_eq_nil_iff (Structure.wellShaped_of_valid h hvalid).nodes_eq).1
      (Structure.found_eq_nil_of_valid h hvalid .bindingSources)
  refine ⟨hbound, fun hall => ?_, fun hlisted => ?_⟩
  · rintro ref ⟨n, hn, o, ho, s, hs, href⟩
    exact hall ref ⟨n, hn, o, ho, s, Json.hasText_iff.2 (.inr hs), href⟩
  · rintro ref ⟨n, hn, o, ho, s, hs, href⟩
    rcases Json.hasText_iff.1 hs with hbinds | hlists
    · exact hbound ref ⟨n, hn, o, ho, s, hbinds, href⟩
    · exact hlisted ref ⟨n, hn, o, ho, s, hlists, href⟩

/-- A chain of three nodes, the second of which declares an output and the third of which has some
bindings. -/
def bindingInputs (bindings : Fields) : Workflow :=
  workflow .linear
    [node "t" "manual-trigger",
      { node "a" "data-fetch" with outputSchema := some (.object [("total", .text "number")]) },
      { node "b" "notify" with inputBindings := some bindings }]
    [edge "t" "a", edge "a" "b"]

/-- The last node takes the output of the one before it, an object further down. -/
def wired : Workflow :=
  bindingInputs [("in", .object [("sum", .text "\x7b\x7b a.total \x7d\x7d")])]

theorem references_resolve_of_wired :
    Structure.validate [] wired .save = .ok ⟨[]⟩ ∧
      wired.Refers Json.Binds ⟨"a", "total", none⟩ ∧ wired.Resolves ⟨"a", "total", none⟩ := by
  have hvalid : Structure.validate [] wired .save = .ok ⟨[]⟩ := by decide +kernel
  have hrefers : wired.Refers Json.Binds ⟨"a", "total", none⟩ :=
    ⟨_, .tail _ (.tail _ (.head _)), _, rfl, "\x7b\x7b a.total \x7d\x7d",
      .entry (.head _) (.entry (.head _) (.here _)), by decide +kernel⟩
  exact ⟨hvalid, hrefers, (references_resolve_of_valid hvalid rfl).1 _ hrefers⟩

/-- The last node takes a list with the output of a node that is not there. -/
def haunted : Workflow :=
  bindingInputs [("items", .list [.text "\x7b\x7b ghost.value \x7d\x7d"])]

/-- A reference to a node that is not there is accepted when its text stands in a list. -/
theorem haunted_valid :
    Structure.validate [] haunted .save = .ok ⟨[]⟩ ∧
      haunted.Refers Json.HasText ⟨"ghost", "value", none⟩ ∧
      ¬haunted.Resolves ⟨"ghost", "value", none⟩ := by
  refine ⟨by decide +kernel, ?_, ?_⟩
  · exact ⟨_, .tail _ (.tail _ (.head _)), _, rfl, "\x7b\x7b ghost.value \x7d\x7d",
      .entry (.head _) (.item (.head _) (.here _)), by decide +kernel⟩
  · rintro ⟨n, hn, hid, -⟩
    have hids : ∀ n ∈ haunted.nodes, n.id ≠ "ghost" := by decide +kernel
    exact hids n hn hid

end WorkflowRelease
