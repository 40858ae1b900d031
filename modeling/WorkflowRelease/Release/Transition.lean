import WorkflowRelease.Release.Clock
import WorkflowRelease.Release.Request
import WorkflowRelease.Release.VersionCode

/-!
# Changes of a document

What saving, publishing, editing and archiving do to a document, once its unit of work has it.
Versions and audits are only ever added at the end; of a version that is there, a publication
changes the status and the marks of publication. Main statement: `versions_publish`, the versions of
a published document are those before, changed in place, followed by one draft.
-/

namespace WorkflowRelease

/-- What the records of an operation may take: the ids for them, and the time if there is one. -/
structure Supply where
  time : Except Clock.Fault String
  definitionId : String
  versionId : String
  auditId : String

/-- The time of an operation and the ids for its records. -/
structure Fresh where
  now : String
  definitionId : String
  versionId : String
  auditId : String
deriving DecidableEq

/-- What there is for records when there is a time. -/
def Supply.fresh (s : Supply) : Except Clock.Fault Fresh :=
  s.time.map fun now => ⟨now, s.definitionId, s.versionId, s.auditId⟩

/-- What a publication has changed. -/
structure PublishOutcome where
  published : Version
  draft : Version
  archived : List Version
  audit : Audit
deriving DecidableEq

def PublishOutcome.toJson (o : PublishOutcome) : Json :=
  .object [("published_version", o.published.toJson), ("draft_version", o.draft.toJson),
    ("archived_versions", .list (o.archived.map Version.toJson)), ("audit", o.audit.toJson)]

/-- A changelog that is given and not empty, or else the usual one. -/
def changelogOr (given : Option String) (usual : String) : Option String :=
  some ((given? given).getD usual)

/-- Changes the first element that passes a test. -/
def modifyFirst {α : Type} (test : α → Bool) (change : α → α) : List α → List α
  | [] => []
  | a :: as => if test a then change a :: as else a :: modifyFirst test change as

namespace Version

/-- The version has the id and the code that are given. -/
def isMeant (versionId versionCode : Option String) (v : Version) : Bool :=
  (given? versionId).all (v.id = ·) && (given? versionCode).all (v.code = ·)

def archive (v : Version) : Version := { v with status := .archived }

def markPublished (user now : String) (v : Version) : Version :=
  { v with status := .published, publishedBy := some user, publishedAt := some now }

/-- The version makes room for the publication of another one. -/
def isReplacedBy (id : String) (v : Version) : Bool := v.status = .published && v.id ≠ id

end Version

namespace Document

/-- The first version that is meant (`find_version`). -/
def findVersion? (d : Document) (versionId versionCode : Option String) : Option Version :=
  d.versions.find? (·.isMeant versionId versionCode)

def codes (d : Document) : List String := d.versions.map (·.code)

/-- A document of its first version. -/
def first (definition : Definition) (v : Version) : Document := ⟨definition, [v], []⟩

/-! ## Saving -/

/-- The code of the next draft after a version, unless codes have run out. -/
def nextCode (d : Document) (after : Option String) : Option VersionCode :=
  VersionCode.successor after d.codes

/-- The draft of a saved snapshot. -/
def draft (code : VersionCode) (snapshot : Fields) (changelog : Option String)
    (definitionId user : String) (fresh : Fresh) : Version where
  id := fresh.versionId
  definitionId := definitionId
  code := code.text
  snapshot := snapshot
  changelog := changelogOr changelog "Saved draft"
  createdBy := user
  createdAt := fresh.now

/-- The document with one more draft. -/
def addDraft (d : Document) (v : Version) (now : String) : Document :=
  { d with
    definition := { d.definition with latestVersionCode := some v.code, updatedAt := now }
    versions := d.versions ++ [v] }

/-! ## Publishing -/

/-- The draft that continues a published version. -/
def continuation (target : Version) (code : VersionCode) (definitionId user : String)
    (fresh : Fresh) : Version where
  id := fresh.versionId
  definitionId := definitionId
  code := code.text
  snapshot := target.snapshot
  changelog := some ("Draft created after publishing " ++ target.code)
  createdBy := user
  createdAt := fresh.now

/-- What the publication of one of the versions comes to; the code is for the draft after it. -/
def outcome (d : Document) (target : Version) (code : VersionCode) (comment : Option String)
    (definitionId user : String) (fresh : Fresh) : PublishOutcome :=
  let archived := (d.versions.filter (·.isReplacedBy target.id)).map (·.archive)
  let draft := continuation target code definitionId user fresh
  { published := target.markPublished user fresh.now
    draft := draft
    archived := archived
    audit :=
      { id := fresh.auditId
        definitionId := definitionId
        versionId := target.id
        versionCode := target.code
        archivedVersionIds := archived.map (·.id)
        archivedVersionCodes := archived.map (·.code)
        draftVersionId := draft.id
        draftVersionCode := draft.code
        comment := comment
        publishedBy := user
        publishedAt := fresh.now } }

/-- The versions when the first one with an id has been published. -/
def publishedVersions (id user now : String) (versions : List Version) : List Version :=
  modifyFirst (·.isMeant (some id) none) (·.markPublished user now)
    (versions.map fun v => if v.isReplacedBy id then v.archive else v)

/-- The document when a publication has come to an outcome. -/
def publish (d : Document) (o : PublishOutcome) (user now : String) : Document where
  definition :=
    { d.definition with
      status := .active
      isActive := true
      latestVersionCode := some o.draft.code
      updatedAt := now }
  versions := publishedVersions o.published.id user now d.versions ++ [o.draft]
  audits := d.audits ++ [o.audit]

theorem versions_publish (d : Document) (o : PublishOutcome) (user now : String) :
    (d.publish o user now).versions =
      publishedVersions o.published.id user now d.versions ++ [o.draft] := rfl

/-! ## Editing and archiving -/

/-- The document with what the request sets. -/
def edit (d : Document) (r : UpdateRequest) (now : String) : Document :=
  { d with
    definition :=
      { d.definition with
        name := r.name.getD d.definition.name
        description := r.description.or d.definition.description
        usageMethod := r.usageMethod.or d.definition.usageMethod
        updatedAt := now } }

/-- The archived document; one that is archived already stays as it is. -/
def retire (d : Document) (now : String) : Document :=
  if d.definition.status = .archived then d
  else { d with
    definition := { d.definition with status := .archived, isActive := false, updatedAt := now } }

end Document

end WorkflowRelease
