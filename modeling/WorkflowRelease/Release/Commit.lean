import WorkflowRelease.Release.Plan

/-!
# Commits

The second step of a command. A plan whose workflow was found wanting is refused (`_ensure_valid`).
Otherwise the document is loaded once more, for the store may have changed since, and a copy of it
is changed (`unit_of_work`); what is `Staged` then is written as a whole, or the refusal of the
change leaves the store alone. A new document is staged when the id of its workflow is still free.
`commit` is a unit of work that nothing comes into; `Concurrent` takes it apart. Main statements:
`result_accept_eq_ok_iff` and `result_commit_eq_ok_iff`.
-/

namespace WorkflowRelease

/-- What a command has led to. -/
inductive Outcome where
  | definition (d : Definition)
  | version (v : Version)
  | publication (o : PublishOutcome)
deriving DecidableEq

def Outcome.toJson : Outcome → Json
  | definition d => d.toJson
  | version v => v.toJson
  | publication o => o.toJson

/-- The entry of an event. -/
def event (message : String) (fields : Fields) : Log.Entry :=
  { logger := serviceLogger, message, fields }

/-- A document that is ready to be written, with what it is the outcome of and what is to be logged
when it has been. -/
structure Staged where
  document : Document
  outcome : Outcome
  notices : List Log.Entry
  /-- The entry for the audit trail. -/
  trail : Option Log.Entry := none
deriving DecidableEq

namespace Store

/-- Refuses the id of a workflow that is in use. -/
def requireFree (s : Store) (workflowId : String) : Traced Unit := do
  .logAll s.skipped
  .require (s.ofWorkflowId? workflowId).isNone (.workflowIdTaken workflowId)

/-- What is logged when a document has been added. -/
def added (d : Document) : Log.Entry :=
  { logger := storeLogger
    message := "Stored workflow definition " ++ d.definition.id ++ " (" ++
      d.definition.workflowId ++ ")" }

/-- Adds a document, the id of whose workflow nobody may use yet (`create`). -/
def create (s : Store) (d : Document) : Traced Store := do
  s.requireFree d.definition.workflowId
  let s ← .ofExcept (s.write d)
  .logAll [added d]
  return s

/-- The document of an id, to be changed. -/
def copy (s : Store) (id : String) : Traced Document := do
  match ← .ofExcept (s.loaded id) with
  | none => .refuse (.noDefinition id)
  | some d => return d

end Store

/-- What is logged when a code is no code, so that codes start again. -/
def restartNotice (latest : Option String) : List Log.Entry :=
  if VersionCode.restarts latest then
    [{ logger := Log.serviceName "versioning", level := .warning
       message := "Latest version code " ++ (latest.map Text.quoted).getD "" ++
         " is not semver, restarting at " ++ VersionCode.initial.text }]
  else []

/-- The first version of a definition. -/
def Version.initial (definition : Definition) (snapshot : Fields) (changelog : Option String)
    (fresh : Fresh) : Version where
  id := fresh.versionId
  definitionId := definition.id
  code := VersionCode.initial.text
  snapshot := snapshot
  changelog := changelogOr changelog "Initial draft"
  createdBy := definition.ownerUserId
  createdAt := fresh.now

namespace Plan

/-- The plan rests on a workflow that was found valid, or on none. -/
def IsAccepted (p : Plan) : Prop := ∀ f ∈ p.finding, f.verdict.valid = true

instance (p : Plan) : Decidable p.IsAccepted := by unfold IsAccepted; infer_instance

/-- Refuses a plan whose workflow was found wanting. -/
def accept : Option Finding → Traced Unit
  | none => return
  | some f =>
    if f.verdict.valid then return
    else do
      .logAll [{ logger := serviceLogger, level := .warning, message := "workflow.dsl.rejected"
                 fields := [("workflow_id", .text f.workflowId), ("stage", .word f.stage),
                   ("codes", .texts (Text.sorted f.verdict.codes))] }]
      .refuse (.rejected f.stage f.verdict)

/-- The snapshot of a workflow. -/
def snapshotOf (w : Workflow) : Except Refusal Fields :=
  if w.isWritable then .ok w.snapshot else .error .snapshotTooDeep

/-- The code for the next draft after a version. -/
def takeCode (d : Document) (after : Option String) : Traced VersionCode := do
  .logAll (restartNotice after)
  match d.nextCode after with
  | some code => return code
  | none => .refuse .codesExhausted

/-! ## Staging -/

/-- A new document (`create`). -/
def stageCreate (store : Store) (definition : Definition) (w : Workflow)
    (changelog : Option String) (supply : Supply) : Traced Staged := do
  let snapshot ← .ofExcept (snapshotOf w)
  .take .version
  let fresh ← .fresh supply
  let d := Document.first definition (Version.initial definition snapshot changelog fresh)
  store.requireFree definition.workflowId
  return {
    document := d
    outcome := .definition definition
    notices := [Store.added d, event "workflow.definition.created"
      [("definition_id", .text definition.id), ("workflow_id", .text definition.workflowId),
        ("owner_user_id", .text definition.ownerUserId), ("mode", .word definition.mode)]] }

/-- The document with one more draft (`create_version`). -/
def stageSave (party : Party) (id : String) (w : Workflow) (changelog : Option String)
    (supply : Supply) (d : Document) : Traced Staged := do
  let d ← .ofExcept (Store.editable party id (some d))
  let code ← takeCode d d.definition.latestVersionCode
  let snapshot ← .ofExcept (snapshotOf w)
  .take .version
  let fresh ← .fresh supply
  let v := Document.draft code snapshot changelog id d.definition.ownerUserId fresh
  return {
    document := d.addDraft v fresh.now
    outcome := .version v
    notices := [event "workflow.version.created"
      [("definition_id", .text id), ("version_id", .text v.id), ("version_code", .text v.code)]] }

/-- The version that a plan means, in the document as it is now. -/
def stillThere (d : Document) (versionId : String) : Except Refusal Version :=
  match d.findVersion? (some versionId) none with
  | some v => .ok v
  | none => .error (.noVersion versionId)

/-- The entry for the audit trail. -/
def published (d : Document) (o : PublishOutcome) (id : String) : Log.Entry where
  logger := Log.auditName
  message := "workflow.version.published"
  fields :=
    [("definition_id", .text id), ("workflow_id", .text d.definition.workflowId),
      ("version_id", .text o.published.id), ("version_code", .text o.published.code),
      ("archived_version_codes", .texts o.audit.archivedVersionCodes),
      ("draft_version_code", .text o.draft.code),
      ("published_by", .text d.definition.ownerUserId)]

/-- The document with one of its versions published (`publish_version`). -/
def stagePublish (party : Party) (id versionId seenAt : String) (comment : Option String)
    (supply : Supply) (d : Document) : Traced Staged := do
  let d ← .ofExcept (Store.editable party id (some d))
  let target ← .ofExcept (stillThere d versionId)
  .ofExcept target.publishable
  .require (d.definition.updatedAt = seenAt) (.outdated id)
  let fresh ← .fresh supply
  let code ← takeCode d (some target.code)
  .take .version
  .take .audit
  let o := d.outcome target code comment id d.definition.ownerUserId fresh
  return {
    document := d.publish o d.definition.ownerUserId fresh.now
    outcome := .publication o
    notices := []
    trail := some (published d o id) }

/-- The document with what is edited (`update_definition`). -/
def stageUpdate (party : Party) (id : String) (r : UpdateRequest) (supply : Supply)
    (d : Document) : Traced Staged := do
  let d ← .ofExcept (Store.editable party id (some d))
  let fresh ← .fresh supply
  let fields := if r.changed = [] then "no changes" else ", ".intercalate r.changed
  return {
    document := d.edit r fresh.now
    outcome := .definition (d.edit r fresh.now).definition
    notices := [event ("Updated workflow definition " ++ id ++ ": " ++ fields) []] }

/-- The document of a definition that is archived, for which there is a time unless it was. -/
def retired (d : Document) (supply : Supply) : Traced Document := do
  if d.definition.status = .archived then return d
  else return d.retire (← .fresh supply).now

/-- The document archived (`remove`). -/
def stageRemove (party : Party) (id : String) (supply : Supply) (d : Document) :
    Traced Staged := do
  .require (d.definition.isOwnedBy party) (.noDefinition id)
  let d ← retired d supply
  return {
    document := d
    outcome := .definition d.definition
    notices := [event "workflow.definition.archived"
      [("definition_id", .text id), ("owner_user_id", .text d.definition.ownerUserId)]] }

/-- Stages a change of the store for a party. -/
def stage (store : Store) (party : Party) (supply : Supply) : Change → Traced Staged
  | .create definition w changelog => stageCreate store definition w changelog supply
  | .save id w changelog => do
    stageSave party id w changelog supply (← store.copy id)
  | .publish id versionId seenAt comment => do
    stagePublish party id versionId seenAt comment supply (← store.copy id)
  | .update id r => do stageUpdate party id r supply (← store.copy id)
  | .remove id => do stageRemove party id supply (← store.copy id)

/-- Stages the change of a plan, unless the workflow was found wanting. -/
def enter (p : Plan) (store : Store) (supply : Supply) : Traced Staged := do
  accept p.finding
  stage store p.party supply p.change

/-- Carries out a plan when nothing comes in between: stages its change and writes it. The store of
a refusal is that of before, since what is refused here is refused before the place is written to.
-/
def commit (p : Plan) (store : Store) (supply : Supply) : Traced (Store × Outcome) := do
  let x ← p.enter store supply
  let store ← .ofExcept (store.write x.document)
  .logAll (x.notices ++ x.trail.toList)
  return (store, x.outcome)

theorem result_accept_eq_ok_iff {f : Option Finding} :
    (accept f).result = .ok () ↔ ∀ x, f = some x → x.verdict.valid = true := by
  cases f with
  | none => simp [accept]
  | some f =>
    cases h : f.verdict.valid <;> simp [accept, h, Traced.result_bind]

theorem result_enter_of_invalid {p : Plan} {f : Finding} (hf : p.finding = some f)
    (h : f.verdict.valid = false) (store : Store) (supply : Supply) :
    (p.enter store supply).result = .error (.rejected f.stage f.verdict) := by
  simp [enter, hf, accept, h, Traced.result_bind]

theorem commit_of_invalid {p : Plan} {f : Finding} (hf : p.finding = some f)
    (h : f.verdict.valid = false) (store : Store) (supply : Supply) :
    (p.commit store supply).result = .error (.rejected f.stage f.verdict) := by
  rw [commit, Traced.result_bind_of_error (result_enter_of_invalid hf h store supply)]

/-- A plan is carried out when its change can be staged and what is staged can be written. -/
theorem result_commit_eq_ok_iff {p : Plan} {store store' : Store} {supply : Supply}
    {outcome : Outcome} : (p.commit store supply).result = .ok (store', outcome) ↔
      ∃ x, (p.enter store supply).result = .ok x ∧ store.write x.document = .ok store' ∧
        outcome = x.outcome := by
  rw [commit, Traced.result_bind_eq_ok_iff]
  refine exists_congr fun x => and_congr_right fun _ => ?_
  simp only [Traced.result_bind_eq_ok_iff, Traced.result_ofExcept, Traced.result_pure,
    Except.ok.injEq, Prod.mk.injEq]
  constructor
  · rintro ⟨s, hw, -, -, rfl, rfl⟩
    exact ⟨hw, rfl⟩
  · rintro ⟨hw, rfl⟩
    exact ⟨store', hw, (), rfl, rfl, rfl⟩

end Plan

end WorkflowRelease
