import Mathlib.Data.List.Basic
import WorkflowRelease.Release.Commit

/-!
# Stored documents

All documents of a store, whether or not their texts can be read back. A store is neat when no place
comes twice and every document is in the place of its id; then a document is stored iff its place
holds it (`Neat.mem_stored_iff`), no id is stored twice (`Neat.nodup_ids`), and whether a document
is found can be told from the document (`Neat.documents_eq`). Main statements: `mem_stored_put`,
`Neat.put`.
-/

namespace WorkflowRelease

/-- The id leads to a place in the folder. -/
def Folder.leadsInside (f : Folder) (id : String) : Bool := (f.placeOf id).toOption.any f.lists

/-- The document is found by whoever looks at all documents of a folder: it is in there, and its
text can be read back. -/
def Document.isFound (f : Folder) (d : Document) : Bool :=
  f.leadsInside d.definition.id && d.toJson.isReadable

namespace Store

/-- The documents that are stored. -/
def stored (s : Store) : List Document :=
  s.entries.filterMap fun e => match e.2 with
    | .document d => some d
    | .unreadable _ => none

@[simp] theorem stored_empty (f : Folder) : stored { folder := f } = [] := rfl

theorem mem_stored {s : Store} {d : Document} :
    d ∈ s.stored ↔ ∃ p, (p, .document d) ∈ s.entries := by
  simp only [stored, List.mem_filterMap]
  constructor
  · rintro ⟨⟨p, x⟩, hm, hx⟩
    cases x with
    | document e => cases hx; exact ⟨p, hm⟩
    | unreadable faults => cases hx
  · rintro ⟨p, hm⟩
    exact ⟨(p, .document d), hm, rfl⟩

theorem mem_entries_of_at? {s : Store} {p : Place} {x : Stored} (h : s.at? p = some x) :
    (p, x) ∈ s.entries := by
  obtain ⟨l, l', hl, -⟩ := List.lookup_eq_some_iff.1 h
  rw [hl]
  simp

theorem mem_stored_of_at? {s : Store} {p : Place} {d : Document}
    (h : s.at? p = some (.document d)) : d ∈ s.stored :=
  mem_stored.2 ⟨p, mem_entries_of_at? h⟩

theorem mem_insert {p : Place} {x : Stored} {entries : List (Place × Stored)}
    {e : Place × Stored} (h : e ∈ insert p x entries) : e = (p, x) ∨ e ∈ entries := by
  induction entries with
  | nil => exact .inl (by simpa [insert] using h)
  | cons f rest ih =>
    obtain ⟨q, y⟩ := f
    unfold insert at h
    split at h
    · rename_i hq
      subst hq
      rcases List.mem_cons.1 h with h | h
      · exact .inl h
      · exact .inr (List.mem_cons_of_mem _ h)
    · split at h
      · exact List.mem_cons.1 h
      · rcases List.mem_cons.1 h with h | h
        · exact .inr (by simp [h])
        · exact (ih h).imp_right (List.mem_cons_of_mem _)

theorem mem_stored_put {s : Store} {p : Place} {d e : Document}
    (h : e ∈ (s.put p (.document d)).stored) : e ∈ s.stored ∨ e = d := by
  obtain ⟨q, hm⟩ := mem_stored.1 h
  rcases mem_insert hm with hm | hm
  · cases hm
    exact .inr rfl
  · exact .inl (mem_stored.2 ⟨q, hm⟩)

theorem read_eq_ok_iff {x : Stored} {d : Document} :
    x.read = .ok d ↔ x = .document d ∧ d.toJson.isReadable = true := by
  cases x with
  | unreadable faults => simp [Stored.read]
  | document e =>
    simp only [Stored.read, Stored.document.injEq]
    split
    · rename_i hr
      rw [Except.ok.injEq]
      exact ⟨fun h => ⟨h, h ▸ hr⟩, fun h => h.1⟩
    · rename_i hr
      constructor
      · intro h
        cases h
      · rintro ⟨rfl, h⟩
        exact absurd h hr

theorem load_of_place {s : Store} {id : String} {p : Place} (h : s.folder.placeOf id = .ok p) :
    s.load id = s.readAt p := by
  rw [load, h]

theorem readAt_eq_some_iff {s : Store} {p : Place} {d : Document} :
    s.readAt p = .ok (some d) ↔ s.at? p = some (.document d) ∧ d.toJson.isReadable = true := by
  rw [readAt]
  cases s.at? p with
  | none => simp [Stored.readIfAny]
  | some x =>
    rw [Option.some.injEq, ← read_eq_ok_iff, Stored.readIfAny]
    cases x.read <;> simp [Except.map, Except.mapError]

/-- A document is loaded from its place if its text can be read back. -/
theorem load_eq_some_iff {s : Store} {id : String} {d : Document} :
    s.load id = .ok (some d) ↔ ∃ p, s.folder.placeOf id = .ok p ∧
      s.at? p = some (.document d) ∧ d.toJson.isReadable = true := by
  cases hp : s.folder.placeOf id with
  | error fault =>
    rw [load, hp]
    cases fault <;> simp
  | ok p => simp [load_of_place hp, readAt_eq_some_iff]

/-- A document is loaded from its place, or it cannot be read back. -/
theorem load_of_at? {s : Store} {id : String} {p : Place} {d : Document}
    (hp : s.folder.placeOf id = .ok p) (hd : s.at? p = some (.document d)) :
    s.load id = if d.toJson.isReadable then .ok (some d)
      else .error (.faulty Stored.unparsable) := by
  rw [load_of_place hp, readAt, hd, Stored.readIfAny, Stored.read]
  split <;> rfl

theorem mem_stored_of_load {s : Store} {id : String} {d : Document}
    (h : s.load id = .ok (some d)) : d ∈ s.stored := by
  obtain ⟨p, -, hp, -⟩ := load_eq_some_iff.1 h
  exact mem_stored_of_at? hp

/-- What another place holds does not matter to an id. -/
theorem load_put_of_ne {s : Store} {id : String} {q : Place} (h : s.folder.placeOf id ≠ .ok q)
    (x : Stored) : (s.put q x).load id = s.load id := by
  unfold load
  rw [folder_put]
  cases hp : s.folder.placeOf id with
  | error fault => cases fault <;> rfl
  | ok p =>
    have hne : q ≠ p := by
      rintro rfl
      exact h hp
    simp only [readAt, at?_put, if_neg hne]

/-- The id of a workflow is free if none of the documents that can be read has it. -/
theorem ofWorkflowId?_eq_none_iff {s : Store} {workflowId : String} :
    s.ofWorkflowId? workflowId = none ↔
      ∀ d ∈ s.documents, d.definition.workflowId ≠ workflowId := by
  simp [ofWorkflowId?]

/-! ## Neat stores -/

/-- The entries are in the order of their names, and no two are in one place. -/
def IsOrdered (entries : List (Place × Stored)) : Prop :=
  entries.Pairwise fun e f => e.1.name ≤ f.1.name ∧ e.1 ≠ f.1

theorem isOrdered_insert {entries : List (Place × Stored)} (h : IsOrdered entries) (p : Place)
    (x : Stored) : IsOrdered (insert p x entries) := by
  induction entries with
  | nil => simp [IsOrdered, insert]
  | cons f rest ih =>
    obtain ⟨q, y⟩ := f
    obtain ⟨hq, hrest⟩ := List.pairwise_cons.1 h
    unfold insert
    split
    · exact List.pairwise_cons.2 ⟨hq, hrest⟩
    · rename_i hne
      split
      · rename_i hlt
        -- all names behind are greater than that of `p`
        have hall : ∀ g ∈ (q, y) :: rest, p.name < g.1.name := by
          intro g hg
          rcases List.mem_cons.1 hg with rfl | hg
          · exact hlt
          · refine String.not_le.1 fun hle => ?_
            exact String.not_le.2 hlt (String.le_trans (hq g hg).1 hle)
        refine List.pairwise_cons.2 ⟨fun g hg => ⟨?_, ?_⟩, h⟩
        · exact String.not_lt.1 fun hgt => String.lt_irrefl _ (String.lt_trans (hall g hg) hgt)
        · intro he
          exact String.lt_irrefl _ (he ▸ hall g hg)
      · rename_i hnlt
        refine List.pairwise_cons.2 ⟨fun g hg => ?_, ih hrest⟩
        rcases mem_insert hg with rfl | hg
        · exact ⟨String.not_lt.1 hnlt, hne⟩
        · exact hq g hg

/-- Putting an entry where it is changes nothing. -/
theorem insert_eq_self {entries : List (Place × Stored)} (h : IsOrdered entries) {p : Place}
    {x : Stored} (hm : (p, x) ∈ entries) : insert p x entries = entries := by
  induction entries with
  | nil => cases hm
  | cons f rest ih =>
    obtain ⟨q, y⟩ := f
    obtain ⟨hq, hrest⟩ := List.pairwise_cons.1 h
    unfold insert
    rcases List.mem_cons.1 hm with hm | hm
    · cases hm
      rw [if_pos rfl]
    · obtain ⟨hle, hne⟩ := hq _ hm
      rw [if_neg hne, if_neg (String.not_lt.2 hle), ih hrest hm]

theorem at?_of_mem {s : Store} (h : IsOrdered s.entries) {p : Place} {x : Stored}
    (hm : (p, x) ∈ s.entries) : s.at? p = some x := by
  unfold at?
  generalize s.entries = entries at h hm
  induction entries with
  | nil => cases hm
  | cons f rest ih =>
    obtain ⟨q, y⟩ := f
    obtain ⟨hq, hrest⟩ := List.pairwise_cons.1 h
    rcases List.mem_cons.1 hm with hm | hm
    · cases hm
      simp
    · have hne : q ≠ p := (hq _ hm).2
      rw [List.lookup_cons, beq_eq_false_iff_ne.2 hne.symm]
      exact ih hrest hm

/-- Every place comes once, and holds nothing but the document whose id leads there. -/
structure Neat (s : Store) : Prop where
  ordered : IsOrdered s.entries
  located : ∀ p d, s.at? p = some (.document d) → s.folder.placeOf d.definition.id = .ok p

namespace Neat

variable {s : Store}

theorem empty (f : Folder) : Neat { folder := f } where
  ordered := List.Pairwise.nil
  located := by simp

theorem put (h : s.Neat) {p : Place} {d : Document}
    (hp : s.folder.placeOf d.definition.id = .ok p) :
    (s.put p (.document d)).Neat where
  ordered := isOrdered_insert h.ordered p _
  located q e he := by
    rw [at?_put] at he
    split at he
    · rename_i hq
      cases he
      exact hq ▸ hp
    · exact h.located q e he

theorem put_eq_self (h : s.Neat) {p : Place} {x : Stored} (hp : s.at? p = some x) :
    s.put p x = s := by
  rw [Store.put, insert_eq_self h.ordered (mem_entries_of_at? hp)]

theorem mem_stored_iff (h : s.Neat) {d : Document} :
    d ∈ s.stored ↔
      ∃ p, s.folder.placeOf d.definition.id = .ok p ∧ s.at? p = some (.document d) := by
  rw [mem_stored]
  constructor
  · rintro ⟨p, hm⟩
    have hp := at?_of_mem h.ordered hm
    exact ⟨p, h.located p d hp, hp⟩
  · rintro ⟨p, -, hp⟩
    exact ⟨p, mem_entries_of_at? hp⟩

theorem nodup_ids (h : s.Neat) : (s.stored.map (·.definition.id)).Nodup := by
  rw [List.Nodup, List.pairwise_map]
  unfold stored
  rw [List.pairwise_filterMap]
  refine h.ordered.imp_of_mem ?_
  rintro ⟨p, x⟩ ⟨q, y⟩ hx hy ⟨-, hne⟩ d hd e he hid
  cases x with
  | unreadable faults => cases hd
  | document d' =>
    cases y with
    | unreadable faults => cases he
    | document e' =>
      cases hd
      cases he
      have hp := h.located p d (at?_of_mem h.ordered hx)
      have hq := h.located q e (at?_of_mem h.ordered hy)
      rw [hid, hq] at hp
      exact hne (Except.ok.inj hp).symm

/-- Of what is stored, the documents that are found are looked at. -/
theorem documents_eq (h : s.Neat) : s.documents = s.stored.filter (Document.isFound s.folder) := by
  rw [documents, listed, List.filterMap_filter, stored, List.filter_filterMap]
  refine List.filterMap_congr fun e he => ?_
  obtain ⟨p, x⟩ := e
  cases x with
  | unreadable faults => simp [Stored.read, Except.toOption]
  | document d =>
    have hplace : s.folder.leadsInside d.definition.id = s.folder.lists p := by
      rw [Folder.leadsInside, h.located p d (at?_of_mem h.ordered he)]
      rfl
    simp only [Stored.read, Document.isFound, hplace, Option.filter_some]
    cases s.folder.lists p <;> cases d.toJson.isReadable <;> rfl

theorem mem_documents_iff (h : s.Neat) {d : Document} :
    d ∈ s.documents ↔ d ∈ s.stored ∧ d.isFound s.folder = true := by
  rw [h.documents_eq, List.mem_filter]

end Neat

end Store

end WorkflowRelease
