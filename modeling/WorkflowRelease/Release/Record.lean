import WorkflowRelease.Party
import WorkflowRelease.Workflow.Snapshot

/-!
# Records

What is kept about a workflow: its definition, its versions with their snapshots, and an audit row
for every publication, the oldest first; together they make up a document (`DefinitionDocument`).
Statuses only say where a record stands: a version goes from draft to published to archived, a
definition from draft to active to archived.
-/

namespace WorkflowRelease

inductive DefinitionStatus where
  | draft
  | active
  | archived
deriving DecidableEq, Repr

inductive VersionStatus where
  | draft
  | published
  | archived
deriving DecidableEq, Repr

/-- What an audit row is about. -/
inductive AuditedOperation where
  | publish
deriving DecidableEq, Repr

instance : LawfulChoice DefinitionStatus where
  title := "DefinitionStatus"
  members := [.draft, .active, .archived]
  word | .draft => "DRAFT" | .active => "ACTIVE" | .archived => "ARCHIVED"
  mem_members a := by cases a <;> simp
  word_inj a b := by cases a <;> cases b <;> simp

instance : LawfulChoice VersionStatus where
  title := "VersionStatus"
  members := [.draft, .published, .archived]
  word | .draft => "DRAFT" | .published => "PUBLISHED" | .archived => "ARCHIVED"
  mem_members a := by cases a <;> simp
  word_inj a b := by cases a <;> cases b <;> simp

instance : LawfulChoice AuditedOperation where
  title := "PublishOperation"
  members := [.publish]
  word | .publish => "PUBLISH"
  mem_members a := by cases a; simp
  word_inj a b := by cases a; cases b; simp

/-- A workflow with a name and an owner (`WorkflowDefinition`). -/
structure Definition where
  id : String
  workflowId : String
  name : String
  description : Option String := none
  mode : Mode
  usageMethod : Option UsageMethod := none
  status : DefinitionStatus := .draft
  isActive : Bool := false
  ownerUserId : String
  source : TemplateSource := .isPrivate
  latestVersionCode : Option String := none
  createdAt : String
  updatedAt : String
deriving DecidableEq

/-- The snapshot of a workflow under a code (`WorkflowVersion`). -/
structure Version where
  id : String
  definitionId : String
  code : String
  status : VersionStatus := .draft
  snapshot : Fields
  changelog : Option String := none
  createdBy : String
  publishedBy : Option String := none
  publishedAt : Option String := none
  createdAt : String
deriving DecidableEq

/-- What one publication did (`WorkflowPublishAudit`). -/
structure Audit where
  id : String
  definitionId : String
  versionId : String
  operation : AuditedOperation := .publish
  versionCode : String
  archivedVersionIds : List String := []
  archivedVersionCodes : List String := []
  draftVersionId : String
  draftVersionCode : String
  comment : Option String := none
  publishedBy : String
  publishedAt : String
deriving DecidableEq

/-- Everything about one definition. -/
structure Document where
  definition : Definition
  versions : List Version := []
  audits : List Audit := []
deriving DecidableEq

/-- The definition belongs to the party. -/
def Definition.isOwnedBy (d : Definition) (party : Party) : Bool := party = .user d.ownerUserId

/-- The party may read the definition (`readable_by`): it is theirs or public. -/
def Definition.readableBy (d : Definition) (party : Party) : Bool :=
  d.isOwnedBy party || d.source = .isPublic

/-! ## Reading -/

open Reader

def Definition.ofFields (o : Fields) : Checked Definition :=
  Definition.mk
    <$> o.read ["id"] text
    <*> o.read ["workflow_id"] text
    <*> o.read ["name"] text
    <*> o.readOption ["description"] text
    <*> o.read ["mode"] (choice Mode)
    <*> o.readOption ["usage_method"] (choice UsageMethod)
    <*> o.readOr ["status"] .draft (choice DefinitionStatus)
    <*> o.readOr ["is_active"] false boolean
    <*> o.read ["owner_user_id"] text
    <*> o.readOr ["template_source"] .isPrivate (choice TemplateSource)
    <*> o.readOption ["latest_version_code"] text
    <*> o.read ["created_at"] text
    <*> o.read ["updated_at"] text

def Version.ofFields (o : Fields) : Checked Version :=
  Version.mk
    <$> o.read ["id"] text
    <*> o.read ["workflow_definition_id"] text
    <*> o.read ["version_code"] text
    <*> o.readOr ["status"] .draft (choice VersionStatus)
    <*> o.read ["dsl_snapshot"] mapping
    <*> o.readOption ["changelog"] text
    <*> o.read ["created_by_user_id"] text
    <*> o.readOption ["published_by_user_id"] text
    <*> o.readOption ["published_at"] text
    <*> o.read ["created_at"] text

def Audit.ofFields (o : Fields) : Checked Audit :=
  Audit.mk
    <$> o.read ["id"] text
    <*> o.read ["workflow_definition_id"] text
    <*> o.read ["workflow_version_id"] text
    <*> o.readOr ["operation"] .publish (choice AuditedOperation)
    <*> o.read ["published_version_code"] text
    <*> o.readOr ["archived_version_ids"] [] (list text)
    <*> o.readOr ["archived_version_codes"] [] (list text)
    <*> o.read ["draft_version_id"] text
    <*> o.read ["draft_version_code"] text
    <*> o.readOption ["comment"] text
    <*> o.read ["published_by_user_id"] text
    <*> o.read ["published_at"] text

def Document.ofFields (o : Fields) : Checked Document :=
  Document.mk
    <$> o.read ["definition"] (record "WorkflowDefinition" Definition.ofFields)
    <*> o.readOr ["versions"] [] (list (record "WorkflowVersion" Version.ofFields))
    <*> o.readOr ["audits"] [] (list (record "WorkflowPublishAudit" Audit.ofFields))

def Document.reader : Reader Document := record "DefinitionDocument" Document.ofFields

/-! ## Writing -/

/-- A record under the names of its fields; what is not set is `null`. -/
def Definition.toJson (d : Definition) : Json :=
  .object [("id", .text d.id), ("workflow_id", .text d.workflowId), ("name", .text d.name),
    ("description", .ofText? d.description), ("mode", .word d.mode),
    ("usage_method", .ofWord? d.usageMethod), ("status", .word d.status),
    ("is_active", .bool d.isActive), ("owner_user_id", .text d.ownerUserId),
    ("template_source", .word d.source), ("latest_version_code", .ofText? d.latestVersionCode),
    ("created_at", .text d.createdAt), ("updated_at", .text d.updatedAt)]

def Version.toJson (v : Version) : Json :=
  .object [("id", .text v.id), ("workflow_definition_id", .text v.definitionId),
    ("version_code", .text v.code), ("status", .word v.status),
    ("dsl_snapshot", .object v.snapshot), ("changelog", .ofText? v.changelog),
    ("created_by_user_id", .text v.createdBy),
    ("published_by_user_id", .ofText? v.publishedBy), ("published_at", .ofText? v.publishedAt),
    ("created_at", .text v.createdAt)]

def Audit.toJson (a : Audit) : Json :=
  .object [("id", .text a.id), ("workflow_definition_id", .text a.definitionId),
    ("workflow_version_id", .text a.versionId), ("operation", .word a.operation),
    ("published_version_code", .text a.versionCode),
    ("archived_version_ids", .texts a.archivedVersionIds),
    ("archived_version_codes", .texts a.archivedVersionCodes),
    ("draft_version_id", .text a.draftVersionId), ("draft_version_code", .text a.draftVersionCode),
    ("comment", .ofText? a.comment), ("published_by_user_id", .text a.publishedBy),
    ("published_at", .text a.publishedAt)]

def Document.toJson (d : Document) : Json :=
  .object [("definition", d.definition.toJson), ("versions", .list (d.versions.map Version.toJson)),
    ("audits", .list (d.audits.map Audit.toJson))]

end WorkflowRelease
