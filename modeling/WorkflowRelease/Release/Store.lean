import WorkflowRelease.Registry.Review
import WorkflowRelease.Release.Record
import WorkflowRelease.Release.Refusal

/-!
# The store of documents

Documents in the places that the ids of their definitions lead to, in the order of their names. What
is stored may also be no document, and a document may be too large for its text to be read back: it
stays as it is, but nobody finds it any more. Looking at all documents (`list_documents`) finds
those in the folder of the store. Main statements: `at?_put` and `at?_erase`.
-/

namespace WorkflowRelease

/-- Why a document is not loaded. -/
inductive Unread where
  | faulty (faults : List Fault)
  /-- The name that the id leads to is too long to be looked for. -/
  | tooLong
deriving DecidableEq

def Unread.refusal : Unread → Refusal
  | faulty faults => .unreadable faults
  | tooLong => .nameTooLong

/-- What is stored in a place: a document, or something that cannot be read as one. -/
inductive Stored where
  | document (d : Document)
  | unreadable (faults : List Fault)
deriving DecidableEq

namespace Stored

/-- What is wrong with a text that cannot be read at all. -/
def unparsable : List Fault := [{ cause := .unparsable }]

/-- A text that is no document at all. -/
def noDocument : Stored := unreadable unparsable

/-- Reads what is stored. The text of a document may be too large to be read. -/
def read : Stored → Except (List Fault) Document
  | document d => if d.toJson.isReadable then .ok d else .error unparsable
  | unreadable faults => .error faults

/-- Reads what is stored if anything is. -/
def readIfAny : Option Stored → Except Unread (Option Document)
  | none => .ok none
  | some x => (x.read.mapError .faulty).map some

end Stored

/-- A folder and what is stored, by place in the order of the names. -/
structure Store where
  folder : Folder := {}
  entries : List (Place × Stored) := []
deriving DecidableEq

namespace Store

/-- Puts an entry in order, where it takes the place of one that is there. -/
def insert (p : Place) (x : Stored) : List (Place × Stored) → List (Place × Stored)
  | [] => [(p, x)]
  | (q, y) :: rest =>
    if q = p then (q, x) :: rest
    else if p.name < q.name then (p, x) :: (q, y) :: rest
    else (q, y) :: insert p x rest

def put (s : Store) (p : Place) (x : Stored) : Store :=
  { s with entries := insert p x s.entries }

def erase (s : Store) (p : Place) : Store := { s with entries := s.entries.filter (·.1 ≠ p) }

/-- What is stored in a place. -/
def at? (s : Store) (p : Place) : Option Stored := s.entries.lookup p

@[simp] theorem folder_put (s : Store) (p : Place) (x : Stored) :
    (s.put p x).folder = s.folder := rfl

theorem lookup_insert (p : Place) (x : Stored) (entries : List (Place × Stored)) (q : Place) :
    (insert p x entries).lookup q = if p = q then some x else entries.lookup q := by
  induction entries with
  | nil =>
    by_cases h : p = q
    · simp [insert, h]
    · simp [insert, List.lookup_cons, h, beq_eq_false_iff_ne.2 (Ne.symm h)]
  | cons e rest ih =>
    obtain ⟨r, y⟩ := e
    unfold insert
    split
    · rename_i hr
      subst hr
      by_cases h : r = q
      · simp [h]
      · simp [List.lookup_cons, h, beq_eq_false_iff_ne.2 (Ne.symm h)]
    · split
      · by_cases h : p = q
        · simp [h]
        · simp [List.lookup_cons, h, beq_eq_false_iff_ne.2 (Ne.symm h)]
      · rename_i hr _
        by_cases h : p = q
        · subst h
          simp [List.lookup_cons, ih, beq_eq_false_iff_ne.2 (Ne.symm hr)]
        · simp [List.lookup_cons, ih, h]

theorem lookup_filter (p : Place) (entries : List (Place × Stored)) (q : Place) :
    (entries.filter (·.1 ≠ p)).lookup q = if p = q then none else entries.lookup q := by
  induction entries with
  | nil => simp
  | cons e rest ih =>
    obtain ⟨r, y⟩ := e
    by_cases hr : r = p
    · subst hr
      by_cases h : r = q
      · simpa [h] using ih
      · simpa [h, List.lookup_cons, beq_eq_false_iff_ne.2 (Ne.symm h)] using ih
    · by_cases h : q = r
      · subst h
        simp [hr, Ne.symm hr]
      · simpa [hr, List.lookup_cons, beq_eq_false_iff_ne.2 h] using ih

@[simp] theorem at?_empty (f : Folder) (p : Place) : at? { folder := f } p = none := rfl

theorem at?_put (s : Store) (p : Place) (x : Stored) (q : Place) :
    (s.put p x).at? q = if p = q then some x else s.at? q :=
  lookup_insert p x s.entries q

theorem at?_erase (s : Store) (p q : Place) :
    (s.erase p).at? q = if p = q then none else s.at? q :=
  lookup_filter p s.entries q

/-! ## Looking documents up -/

/-- The document in a place, if there is one (`_read`); what cannot be read is an error. -/
def readAt (s : Store) (p : Place) : Except Unread (Option Document) := Stored.readIfAny (s.at? p)

/-- The document of an id, if there is one (`load`). Where an id leads nowhere there is none, but a
name that is too long is an error. -/
def load (s : Store) (id : String) : Except Unread (Option Document) :=
  match s.folder.placeOf id with
  | .ok p => s.readAt p
  | .error .tooLong => .error .tooLong
  | .error _ => .ok none

/-- What is stored in the folder of the store, in order. -/
def listed (s : Store) : List (Place × Stored) := s.entries.filter (s.folder.lists ·.1)

/-- The documents that can be read, in order. -/
def documents (s : Store) : List Document :=
  s.listed.filterMap fun e => e.2.read.toOption

/-- The names of what cannot be read, in order. -/
def unreadable (s : Store) : List String :=
  (s.listed.filter fun e => e.2.read.toOption.isNone).map (·.1.name)

/-- The first definition of a workflow id (`find_by_workflow_id`). -/
def ofWorkflowId? (s : Store) (workflowId : String) : Option Definition :=
  (s.documents.map (·.definition)).find? (·.workflowId = workflowId)

/-- The id of the definition, if the party may read it (`find_visible`). -/
def visible? (s : Store) (id : String) (party : Party) :
    Except Unread (Option String) := do
  match ← s.load id with
  | some d => .ok (if d.definition.readableBy party then some d.definition.id else none)
  | none => .ok none

/-- The id of the first published version, or of the given version if that is published
(`find_published`). -/
def published? (s : Store) (id : String) (versionId : Option String) :
    Except Unread (Option String) := do
  match ← s.load id with
  | some d =>
    let published := d.versions.filter (·.status = .published)
    .ok ((published.find? fun v => versionId.all (v.id = ·)).map (·.id))
  | none => .ok none

/-- What a review may ask the store. -/
def directory (s : Store) : Directory Unread where
  isVisible id party := (s.visible? id party).map Option.isSome
  isPublished id versionId := (s.published? id versionId).map Option.isSome

/-! ## Writing -/

/-- The place to write to under an id. What is written is drafted under a longer name first. -/
def placeFor (s : Store) (id : String) : Except Refusal Place :=
  match s.folder.placeOf id with
  | .ok p => if Place.isTooLong p.draftName then .error (.noPlace .tooLong) else .ok p
  | .error fault => .error (.noPlace fault)

@[simp] theorem placeFor_put (s : Store) (p : Place) (x : Stored) (id : String) :
    (s.put p x).placeFor id = s.placeFor id := rfl

theorem placeFor_eq_ok_iff {s : Store} {id : String} {p : Place} : s.placeFor id = .ok p ↔
    s.folder.placeOf id = .ok p ∧ Place.isTooLong p.draftName = false := by
  unfold placeFor
  cases s.folder.placeOf id with
  | error fault => simp
  | ok q =>
    show (if Place.isTooLong q.draftName then _ else _) = _ ↔ _
    rw [Except.ok.injEq]
    by_cases hlong : Place.isTooLong q.draftName = true
    · rw [if_pos hlong]
      exact ⟨nofun, fun ⟨he, hp⟩ => by rw [← he, hlong] at hp; cases hp⟩
    · rw [if_neg hlong, Except.ok.injEq]
      exact ⟨fun he => ⟨he, he ▸ Bool.eq_false_iff.2 hlong⟩, fun h => h.1⟩

/-- Where there is no place to write to, the refusal is one of writing. -/
theorem isOfWriting_of_placeFor {s : Store} {id : String} {r : Refusal}
    (h : s.placeFor id = .error r) : r.isOfWriting = true := by
  unfold placeFor at h
  split at h
  · split at h
    · cases h
      rfl
    · cases h
  · cases h
    rfl

theorem placeFor_of_isName (s : Store) {id : String} (h : IsName id) :
    s.placeFor id = .ok ⟨s.folder.path, id ++ Place.extension⟩ :=
  placeFor_eq_ok_iff.2 ⟨s.folder.placeOf_of_isName h, (Place.isTooLong_of_isName h _).2⟩

/-- Writes a document under the id of its definition (`_write`). -/
def write (s : Store) (d : Document) : Except Refusal Store := do
  let place ← s.placeFor d.definition.id
  if d.versions.all (·.snapshot.areWritable) then .ok (s.put place (.document d))
  else .error .documentTooDeep

/-- Spoils what is stored under an id. -/
def spoil (s : Store) (id : String) : Except Refusal Store :=
  match s.folder.placeOf id with
  | .ok place => .ok (s.put place .noDocument)
  | .error fault => .error (.noPlace fault)

/-- Removes what is stored under an id; there may be nothing. -/
def delete (s : Store) (id : String) : Except Refusal Store :=
  match s.folder.placeOf id with
  | .ok place => .ok (s.erase place)
  | .error .noFolder => .ok s
  | .error fault => .error (.noPlace fault)

end Store

end WorkflowRelease
