import WorkflowRelease.Proofs.Snapshot.Again

/-!
# Whose identity a workflow has

A document that is brought under an identity is read as if it had never said anything about one:
the fields of the identity are those that were given, under whatever name the document had other
values for them, and all other fields and all faults are those of the rest of the document. Main
statements: `Workflow.canonicalize_eq`, and `identified_as_given`, which says the same of the
workflow that comes of it, field by field.
-/

namespace WorkflowRelease

open Reader

/-! ## Readings put together -/

namespace Checked

variable {α β γ : Type}

@[simp] theorem map_valid (f : α → β) (a : α) : (valid a).map f = valid (f a) := rfl

/-- What is done to the result of a combination may be done to its function. -/
theorem map_seq (g : β → γ) (f : Checked (α → β)) (x : Checked α) :
    (f.seq x).map g = (f.map (g ∘ ·)).seq x := by
  cases f <;> cases x <;> rfl

/-- A part that cannot fail is put in at once. -/
theorem seq_valid_right (f : Checked (α → β)) (a : α) : f.seq (valid a) = f.map (· a) := by
  cases f with
  | valid f => rfl
  | faulty fs => simp [seq, map, faults]

end Checked

/-! ## What is read of a document -/

namespace Fields

variable {α : Type} {r : Reader α} {o o' : Fields} {name : String} {names : List String}

theorem findFirst_congr (h : ∀ n ∈ names, o.get? n = o'.get? n) :
    o.findFirst names = o'.findFirst names := by
  induction names with
  | nil => rfl
  | cons n names ih =>
    rw [findFirst, findFirst, h n List.mem_cons_self,
      ih fun m hm => h m (List.mem_cons_of_mem _ hm)]

/-- A field does not depend on what is under other names. -/
theorem readOr_congr {fallback : α} (h : ∀ n ∈ names, o.get? n = o'.get? n) :
    o.readOr names fallback r = o'.readOr names fallback r := by
  rw [readOr, readOr, findFirst_congr h]

/-- The first name decides, whatever is under the others. -/
theorem readOr_of_some {fallback : α} {v : Json} {a : α} (h : o.get? name = some v)
    (hv : r v = .valid a) : o.readOr (name :: names) fallback r = .valid a := by
  rw [readOr, findFirst_of_some h]
  exact Checked.under_eq_valid_iff.2 hv

theorem readOr_of_none {fallback : α} (h : ∀ n ∈ names, o.get? n = none) :
    o.readOr names fallback r = .valid fallback := by
  have hnone : o.findFirst names = none := by
    induction names with
    | nil => rfl
    | cons n names ih =>
      rw [findFirst, h n List.mem_cons_self]
      exact ih fun m hm => h m (List.mem_cons_of_mem _ hm)
  rw [readOr, hnone]

theorem get?_filter_key (o : Fields) (p : String → Bool) (key : String) :
    get? (o.filter fun e => p e.1) key = if p key then o.get? key else none := by
  induction o with
  | nil => simp
  | cons e o ih =>
    obtain ⟨k, v⟩ := e
    by_cases heq : k = key
    · subst heq
      by_cases hk : p k <;> simp [hk, ih, get?_cons]
    · by_cases hk : p k <;> simp [hk, ih, get?_cons, heq]

end Fields

/-! ## Documents and identities -/

/-- The names under which a document may say something about an identity. -/
def Identity.names : List String :=
  ["workflowId", "workflow_id", "name", "mode", "usageMethod", "usage_method", "ownerUserId",
    "owner_user_id", "templateSource", "template_source"]

/-- The document without what it says about an identity. -/
def Fields.anonymous (o : Fields) : Fields := o.filter fun e => e.1 ∉ Identity.names

namespace Workflow

/-- The workflow under an identity whose fields are texts. -/
def identifiedAs (workflowId name : String) (mode : Mode) (usageMethod : Option UsageMethod)
    (ownerUserId : Option String) (templateSource : Option TemplateSource) (w : Workflow) :
    Workflow :=
  { w with workflowId, name, mode := some mode, usageMethod, ownerUserId, templateSource }

end Workflow

namespace Fields

variable {o : Fields} {key : String}

theorem get?_anonymous (o : Fields) (key : String) :
    o.anonymous.get? key = if key ∈ Identity.names then none else o.get? key := by
  rw [anonymous, get?_filter_key o (fun key => key ∉ Identity.names)]
  by_cases h : key ∈ Identity.names <;> simp [h]

/-- An identity leaves alone what a document has under other names. -/
theorem get?_identified (o : Fields) (identity : Identity) (h : key ∉ Identity.names) :
    (o.update identity.fields).get? key = o.anonymous.get? key := by
  have hnone : identity.fields.get? key = none := by
    simp only [Identity.names, List.mem_cons, List.not_mem_nil, or_false, not_or] at h
    simp [Identity.fields, get?_cons, eq_comm, h]
  rw [Log.Entry.get?_update (Workflow.nodup_keys_identity identity), hnone, Option.none_or,
    get?_anonymous, if_neg h]

/-- Without what it says about an identity, a document gives nothing for its fields. -/
theorem readOr_anonymous {α : Type} {r : Reader α} {names : List String} {fallback : α}
    (h : ∀ n ∈ names, n ∈ Identity.names) :
    o.anonymous.readOr names fallback r = .valid fallback :=
  readOr_of_none fun n hn => by rw [get?_anonymous, if_pos (h n hn)]

/-- An identity is read before anything that the document says. -/
theorem readOr_identified {α : Type} {r : Reader α} {identity : Identity} {name : String}
    {names : List String} {fallback a : α} {v : Json} (h : identity.fields.get? name = some v)
    (hv : r v = .valid a) :
    (o.update identity.fields).readOr (name :: names) fallback r = .valid a := by
  refine readOr_of_some ?_ hv
  rw [Log.Entry.get?_update (Workflow.nodup_keys_identity identity), h, Option.some_or]

/-- What is no field of an identity is read of the rest of the document. -/
theorem readOr_beside {α : Type} {r : Reader α} {identity : Identity} {names : List String}
    {fallback : α} (h : ∀ n ∈ names, n ∉ Identity.names) :
    (o.update identity.fields).readOr names fallback r = o.anonymous.readOr names fallback r :=
  readOr_congr fun n hn => o.get?_identified identity (h n hn)

end Fields

namespace Reader

theorem optional_ofWord? {α : Type} [LawfulChoice α] (a : Option α) :
    (choice α).optional (.ofWord? a) = .valid a := by
  cases a with
  | none => rfl
  | some a =>
    simp [Json.ofWord?, Json.word, optional, choice, Json.text?, Choice.ofWord?_word, Checked.map]

theorem optional_ofText? (s : Option String) : text.optional (.ofText? s) = .valid s := by
  cases s <;> rfl

end Reader

namespace Workflow

/-- **A document under an identity** is read like the rest of the document, with the fields of the
identity in place, or with the same faults. -/
theorem canonicalize_eq (document nodeDefaults : Fields) (workflowId name : String) (mode : Mode)
    (usageMethod : Option UsageMethod) (ownerUserId : Option String)
    (templateSource : Option TemplateSource) :
    canonicalize (some document)
      ⟨.text workflowId, .text name, mode, usageMethod, .ofText? ownerUserId, templateSource⟩
      nodeDefaults =
    (ofFields document.anonymous).map
      (identifiedAs workflowId name mode usageMethod ownerUserId templateSource) := by
  unfold canonicalize ofFields Fields.readOption
  simp only [Checked.map_eq, Checked.seq_eq, Option.getD_some]
  -- what is read under the names of the identity
  rw [Fields.readOr_identified rfl (rfl : text (.text workflowId) = .valid workflowId),
    Fields.readOr_identified rfl (rfl : text (.text name) = .valid name),
    Fields.readOr_identified rfl (optional_ofWord? (some mode)),
    Fields.readOr_identified rfl (optional_ofWord? usageMethod),
    Fields.readOr_identified rfl (optional_ofText? ownerUserId),
    Fields.readOr_identified rfl (optional_ofWord? templateSource)]
  -- all else is read of the rest of the document
  simp (disch := decide) only [Fields.readOr_beside, Fields.readOr_anonymous]
  simp only [Checked.seq_valid_right, Checked.map_seq, Checked.map_valid]
  rfl

end Workflow

/-- **No identity but the given one.** Whatever a document has under the names of an identity, well
formed or not: it is read under the given identity iff it is read at all when everything under these
names has been taken out of it, and then the workflow has the six fields of the identity as they
were given, and all others as they are read without them. Otherwise the faults are the same. -/
theorem identified_as_given (document nodeDefaults : Fields) (workflowId name : String)
    (mode : Mode) (usageMethod : Option UsageMethod) (ownerUserId : Option String)
    (templateSource : Option TemplateSource) :
    let identity : Identity :=
      ⟨.text workflowId, .text name, mode, usageMethod, .ofText? ownerUserId, templateSource⟩
    (∀ w, Workflow.canonicalize (some document) identity nodeDefaults = .valid w ↔
      ∃ w', Workflow.ofFields document.anonymous = .valid w' ∧
        w = { w' with workflowId, name, mode := some mode, usageMethod, ownerUserId,
                      templateSource }) ∧
    (∀ faults, Workflow.canonicalize (some document) identity nodeDefaults = .faulty faults ↔
      Workflow.ofFields document.anonymous = .faulty faults) := by
  intro identity
  have heq := Workflow.canonicalize_eq document nodeDefaults workflowId name mode usageMethod
    ownerUserId templateSource
  rw [heq]
  constructor
  · intro w
    rw [Checked.map_eq_valid_iff]
    exact exists_congr fun w' => and_congr_right fun _ => eq_comm
  · intro faults
    cases Workflow.ofFields document.anonymous <;> simp [Checked.map]

namespace Sample

/-- A document that gives an identity of its own under all kinds of names, some of it malformed. -/
def misidentified : Fields :=
  [("workflowId", .int 1), ("workflow_id", .text "mine"), ("name", .null), ("mode", .text "DAG"),
    ("owner_user_id", .text "guest"), ("templateSource", .list []), ("template_source", .int 0),
    ("version", .text "2.0.0")]

end Sample

example : (Sample.canonical Sample.misidentified).map (fun w => (w.workflowId, w.name, w.mode)) =
    some ("linear", "Linear", some .linear) := by
  decide +kernel

end WorkflowRelease
