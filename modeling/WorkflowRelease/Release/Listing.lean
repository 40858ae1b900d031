import WorkflowRelease.Release.Plan

/-!
# Listings

What a party may read: a definition, its versions and audits with the newest first, and pages of
definitions that answer a query. Definitions come in the order of their last change, the latest
first. Main statement: `result_readDocument_eq_ok_iff`, a stored document is shown to whoever may
read it.
-/

namespace WorkflowRelease

/-- Some of the items that answer a query. -/
structure Page (α : Type) where
  items : List α
  total : Nat
  page : Int
  pageSize : Int
deriving DecidableEq

namespace Page

variable {α : Type}

/-- The page with a number, the first being one, of pages of a size. -/
def of (all : List α) (page size : Int) : Page α where
  items := (all.drop ((page - 1) * size).toNat).take size.toNat
  total := all.length
  page := page
  pageSize := size

def toJson (p : Page α) (item : α → Json) : Json :=
  .object [("items", .list (p.items.map item)), ("total", .int p.total), ("page", .int p.page),
    ("page_size", .int p.pageSize)]

end Page

namespace Query

/-- The party owns the definition, or it is public and public ones are wanted. -/
def covers (q : Query) (party : Party) (d : Definition) : Bool :=
  d.isOwnedBy party || (q.includePublic && d.source = .isPublic)

/-- The word that is looked for, in small letters; an empty one is everywhere. -/
def word (q : Query) : List Char := (Text.lower (Text.strip (q.keyword.getD ""))).toList

/-- The word stands in the name or in the id of the workflow. -/
def isFoundIn (word : List Char) (d : Definition) : Bool :=
  Text.occurs word (Text.lower d.name).toList || Text.occurs word (Text.lower d.workflowId).toList

/-- The definition answers the query of the party. -/
def matched (q : Query) (party : Party) (d : Definition) : Bool :=
  q.covers party d && q.mode.all (d.mode = ·) && q.usageMethod.all (d.usageMethod = some ·) &&
    q.status.all (d.status = ·) && isFoundIn q.word d

end Query

/-- The one definition was changed no earlier than the other. -/
def Definition.notOlder (d e : Definition) : Bool := e.updatedAt ≤ d.updatedAt

namespace Store

/-- The definitions that answer a query, the latest change first. -/
def matched (s : Store) (q : Query) (party : Party) : List Definition :=
  ((s.documents.map (·.definition)).filter (q.matched party)).mergeSort Definition.notOlder

/-- A page of the definitions that answer a query (`list_definitions`). -/
def list (s : Store) (party : Party) (q : Query) : Traced (Page Definition) := do
  .logAll s.skipped
  return .of (s.matched q party) q.page q.pageSize

/-- The document of a definition that the party may read. -/
def readDocument (s : Store) (party : Party) (id : String) : Traced Document := do
  let found ← .ofExcept (s.loaded id)
  .ofExcept (readable party id found)

/-- A definition that the party may read (`get_definition`). -/
def readDefinition (s : Store) (party : Party) (id : String) : Traced Definition := do
  return (← s.readDocument party id).definition

/-- The versions of a definition, the newest first (`list_versions`). -/
def listVersions (s : Store) (party : Party) (id : String) : Traced (List Version) := do
  return (← s.readDocument party id).versions.reverse

/-- A page of the audits of a definition, the newest first (`list_publish_audits`). -/
def listAudits (s : Store) (party : Party) (id : String) (page size : Int) :
    Traced (Page Audit) := do
  .require (1 ≤ page && 1 ≤ size) .pageNotPositive
  return .of (← s.readDocument party id).audits.reverse page size

/-- The definition of a workflow id, whoever owns it. -/
def findByWorkflowId (s : Store) (workflowId : String) : Traced (Option Definition) := do
  .logAll s.skipped
  return s.ofWorkflowId? workflowId

/-- A document is read if it is there and the party may read it. -/
theorem result_readDocument_eq_ok_iff {s : Store} {party : Party} {id : String} {d : Document} :
    (s.readDocument party id).result = .ok d ↔
      s.load id = .ok (some d) ∧ d.definition.readableBy party = true := by
  rw [readDocument, Traced.result_bind_eq_ok_iff]
  simp only [Traced.result_ofExcept, loaded_eq_ok, readable_eq_ok_iff]
  constructor
  · rintro ⟨_, hload, rfl, hread⟩
    exact ⟨hload, hread⟩
  · rintro ⟨hload, hread⟩
    exact ⟨_, hload, rfl, hread⟩

end Store

end WorkflowRelease
