import WorkflowRelease.Release.Store
import WorkflowRelease.Release.Traced
import WorkflowRelease.Release.Transition
import WorkflowRelease.Settings
import WorkflowRelease.Workflow.Identity

/-!
# Plans

A command is carried out in two steps. The first one looks at the store, validates and reviews, and
makes a plan of it; the second one, in `Commit`, acts on the verdict and changes the store, which
may have changed in between. A review asks a directory about other workflows; it may ask later than
the look, so the directory need not be that of the store that was looked at. Edits and archiving are
planned without a look. Main statement: `editable_eq_ok_iff`, a party may change what is theirs and
not archived.
-/

namespace WorkflowRelease

/-- What a service works by (`WorkflowDefinitionService`). -/
structure Service where
  governance : Governance := {}
  outputTypes : List String := WorkflowRelease.outputTypes
  nodeDefaults : Fields := ({} : Settings).nodeDefaults
  /-- The folder of its store. -/
  folder : Folder := {}
deriving DecidableEq

/-- The service with some settings, whose node types have to be a collection
(`create_workflow_definition_service`). -/
def Service.ofSettings (s : Settings) (catalog : Catalog Int) (folder : Folder) :
    Except Settings.NoCollection Service :=
  s.outputs.map fun types =>
    { governance := ⟨catalog, .ofJson s.minPublishedVersion⟩
      outputTypes := types
      nodeDefaults := s.nodeDefaults
      folder := folder }

/-- What a party asks for that changes the store. -/
inductive Command where
  | create (request : CreateRequest)
  | save (definitionId : String) (request : VersionRequest)
  | publish (definitionId : String) (request : PublishRequest)
  | update (definitionId : String) (request : UpdateRequest)
  | remove (definitionId : String)
deriving DecidableEq

/-- A change of the store that is ready to be made. -/
inductive Change where
  | create (definition : Definition) (workflow : Workflow) (changelog : Option String)
  | save (definitionId : String) (workflow : Workflow) (changelog : Option String)
  /-- The version with the id, in the state of the definition at the time it was looked at. -/
  | publish (definitionId versionId seenAt : String) (comment : Option String)
  | update (definitionId : String) (request : UpdateRequest)
  | remove (definitionId : String)
deriving DecidableEq

/-- What validation and review have found about a workflow. -/
structure Finding where
  workflowId : String
  stage : Stage
  verdict : Verdict
deriving DecidableEq

structure Plan where
  party : Party
  change : Change
  finding : Option Finding := none
deriving DecidableEq

/-! ## Looking at the store -/

/-- The name under which a service logs. -/
def serviceLogger : String := Log.serviceName "workflow_definition"

/-- The name under which a store logs. -/
def storeLogger : String := Log.serviceName "workflow_store"

theorem mapError_eq_ok {ε ε' α : Type} {x : Except ε α} {f : ε → ε'} {a : α} :
    x.mapError f = .ok a ↔ x = .ok a := by
  cases x with
  | error e =>
    constructor <;> intro h <;> cases h
  | ok b =>
    constructor
    · intro h
      cases h
      rfl
    · intro h
      cases h
      rfl

namespace Store

/-- What is logged when all documents are looked at: those that cannot be read. -/
def skipped (s : Store) : List Log.Entry :=
  s.unreadable.map fun name =>
    { logger := storeLogger, level := .warning
      message := "Skipping unreadable workflow document " ++ name }

/-- The document of an id; what cannot be read is a refusal. -/
def loaded (s : Store) (id : String) : Except Refusal (Option Document) :=
  (s.load id).mapError Unread.refusal

theorem loaded_eq_ok {s : Store} {id : String} {d : Option Document} :
    s.loaded id = .ok d ↔ s.load id = .ok d :=
  mapError_eq_ok

/-- The document of a definition that the party may change (`_ensure_editable`). -/
def editable (party : Party) (id : String) (d : Option Document) : Except Refusal Document :=
  match d with
  | none => .error (.noDefinition id)
  | some d =>
    if !d.definition.isOwnedBy party then .error (.noDefinition id)
    else if d.definition.status = .archived then .error (.archived id)
    else .ok d

/-- The document of a definition that the party may read (`_load_readable`). -/
def readable (party : Party) (id : String) (d : Option Document) : Except Refusal Document :=
  match d with
  | none => .error (.noDefinition id)
  | some d => if d.definition.readableBy party then .ok d else .error (.noDefinition id)

theorem readable_eq_ok_iff {party : Party} {id : String} {d : Option Document} {d' : Document} :
    readable party id d = .ok d' ↔ d = some d' ∧ d'.definition.readableBy party = true := by
  cases d with
  | none => simp [readable]
  | some d =>
    rw [readable, Option.some.injEq]
    by_cases hr : d.definition.readableBy party = true
    · rw [if_pos hr, Except.ok.injEq]
      exact ⟨fun h => ⟨h, h ▸ hr⟩, fun h => h.1⟩
    · rw [if_neg hr]
      exact ⟨nofun, fun ⟨he, hd⟩ => absurd (he ▸ hd) hr⟩

theorem editable_eq_ok_iff {party : Party} {id : String} {d : Option Document} {d' : Document} :
    editable party id d = .ok d' ↔ d = some d' ∧ party = .user d'.definition.ownerUserId ∧
      d'.definition.status ≠ .archived := by
  cases d with
  | none => simp [editable]
  | some d =>
    unfold editable
    by_cases ho : party = .user d.definition.ownerUserId
    · by_cases hs : d.definition.status = .archived
      · simp only [Definition.isOwnedBy, ho, hs, decide_true, Bool.not_true, Bool.false_eq_true,
          if_false, if_true, reduceCtorEq, false_iff]
        rintro ⟨h, _, h'⟩
        cases h
        exact h' hs
      · simp only [Definition.isOwnedBy, ho, hs, decide_true, Bool.not_true, Bool.false_eq_true,
          if_false, Except.ok.injEq, Option.some.injEq]
        constructor
        · rintro rfl
          exact ⟨rfl, rfl, hs⟩
        · exact fun h => h.1
    · simp only [Definition.isOwnedBy, ho, decide_false, Bool.not_false, if_true, reduceCtorEq,
        false_iff]
      rintro ⟨h, h', _⟩
      cases h
      exact ho h'

end Store

/-- A version that is published cannot be published again (`_ensure_publishable`). -/
def Version.publishable (v : Version) : Except Refusal Unit :=
  if v.status = .published then .error (.alreadyPublished v.code) else .ok ()

/-! ## Planning -/

/-- The user that a definition can be made for. -/
def Party.asOwner (party : Party) : Except Refusal String :=
  match party.id? with
  | some id => .ok id
  | none => .error .noOwner

/-- The time and the ids for records. -/
def Traced.fresh (supply : Supply) : Traced Fresh := .ofExcept (supply.fresh.mapError .noTime)

/-- The definition that a request is for. -/
def CreateRequest.definition (r : CreateRequest) (owner : String) (fresh : Fresh) :
    Definition where
  id := fresh.definitionId
  workflowId := r.workflowId
  name := r.name
  description := r.description
  mode := r.mode
  usageMethod := some r.usageMethod
  ownerUserId := owner
  source := r.source
  latestVersionCode := some VersionCode.initial.text
  createdAt := fresh.now
  updatedAt := fresh.now

/-- The identity that a definition gives to its workflows. -/
def Definition.identity (d : Definition) : Identity where
  workflowId := .text d.workflowId
  name := .text d.name
  mode := d.mode
  usageMethod := d.usageMethod
  ownerUserId := .text d.ownerUserId
  templateSource := some d.source

namespace Service

/-- The workflow of a document under the identity of a definition (`_canonicalize`). -/
def canonical (s : Service) (document : Option Fields) (d : Definition) : Except Refusal Workflow :=
  match Workflow.canonicalize document d.identity s.nodeDefaults with
  | .valid w => .ok w
  | .faulty faults => .error (.malformed faults)

/-- The workflow in the snapshot of a version. -/
def stored (v : Version) : Except Refusal Workflow :=
  match Workflow.ofFields v.snapshot with
  | .valid w => .ok w
  | .faulty faults => .error (.brokenSnapshot v.id faults)

/-- Validates the structure of a workflow. -/
def validate (s : Service) (w : Workflow) (stage : Stage) : Except Refusal Verdict :=
  (Structure.validate s.outputTypes w stage).mapError fun
    | .beyondDouble => .beyondDouble

/-- Reviews the references of a workflow. -/
def review (s : Service) (directory : Directory Unread) (w : Workflow) (party : Party)
    (current : Option String) (stage : Stage) : Except Refusal Verdict :=
  (s.governance.review directory w party current stage).mapError fun
    | .unordered kind => .unordered kind
    | .noAnswer error => error.refusal

/-- Validates the structure of a workflow and reviews its references (`_ensure_valid`). -/
def examine (s : Service) (directory : Directory Unread) (w : Workflow) (party : Party)
    (current : Option String) (stage : Stage) : Traced Finding := do
  let structural ← .ofExcept (s.validate w stage)
  let governance ← .ofExcept (s.review directory w party current stage)
  .logAll (Governance.notice w stage governance)
  return ⟨w.workflowId, stage, structural.merge governance⟩

variable (s : Service) (store : Store) (directory : Directory Unread) (party : Party)

def planCreate (r : CreateRequest) (supply : Supply) : Traced Plan := do
  .logAll store.skipped
  .require (store.ofWorkflowId? r.workflowId).isNone (.workflowIdTaken r.workflowId)
  .take .definition
  let fresh ← .fresh supply
  let owner ← .ofExcept party.asOwner
  let definition := r.definition owner fresh
  let w ← .ofExcept (s.canonical r.snapshot definition)
  let finding ← s.examine directory w party none .save
  return ⟨party, .create definition w r.changelog, some finding⟩

def planSave (id : String) (r : VersionRequest) : Traced Plan := do
  let found ← .ofExcept (store.loaded id)
  let d ← .ofExcept (Store.editable party id found)
  let w ← .ofExcept (s.canonical (some r.snapshot) d.definition)
  let finding ← s.examine directory w party (some id) .save
  return ⟨party, .save id w r.changelog, some finding⟩

/-- The version of a document that a request means. -/
def meant (d : Document) (r : PublishRequest) : Except Refusal Version :=
  match d.findVersion? r.versionId r.versionCode with
  | some v => .ok v
  | none => .error (.noVersion (r.target?.getD ""))

def planPublish (id : String) (r : PublishRequest) : Traced Plan := do
  let found ← .ofExcept (store.loaded id)
  let d ← .ofExcept (Store.editable party id found)
  let target ← .ofExcept (meant d r)
  .ofExcept target.publishable
  let w ← .ofExcept (stored target)
  let finding ← s.examine directory w party (some id) .publish
  return ⟨party, .publish id target.id d.definition.updatedAt r.comment, some finding⟩

/-- The plan for a command, whose review asks a directory. -/
def planAsking (supply : Supply) : Command → Traced Plan
  | .create r => s.planCreate store directory party r supply
  | .save id r => s.planSave store directory party id r
  | .publish id r => s.planPublish store directory party id r
  | .update id r => return ⟨party, .update id r, none⟩
  | .remove id => return ⟨party, .remove id, none⟩

/-- The plan for a command, whose review asks the store that was looked at. -/
def plan (supply : Supply) : Command → Traced Plan :=
  s.planAsking store store.directory party supply

end Service

end WorkflowRelease
