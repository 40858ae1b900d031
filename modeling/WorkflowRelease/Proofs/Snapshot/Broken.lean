import WorkflowRelease.Proofs.Run.Basic
import WorkflowRelease.Proofs.Run.Planned
import WorkflowRelease.Proofs.Run.Stored

/-!
# Broken snapshots

Which operations blame the snapshot of a stored version. Most of what an operation does cannot:
making a plan to create or to save, and acting on any plan. Main statement:
`exists_broken_of_answer`, only a look to publish blames a snapshot, and it is that of a stored
version which cannot be read as a workflow.
-/

namespace WorkflowRelease

variable {α β : Type}

/-- No refusal blames a snapshot. -/
def BlamesNone (x : Except Refusal α) : Prop := ∀ id faults, x ≠ .error (.brokenSnapshot id faults)

namespace BlamesNone

theorem ok {a : α} : BlamesNone (.ok a) := nofun

theorem error {r : Refusal} (h : ∀ id faults, r ≠ .brokenSnapshot id faults) :
    BlamesNone (.error r : Except Refusal α) :=
  fun id faults he => h id faults (Except.error.inj he)

theorem mapError {ε : Type} {x : Except ε α} {f : ε → Refusal}
    (h : ∀ e id faults, f e ≠ .brokenSnapshot id faults) : BlamesNone (x.mapError f) := by
  cases x with
  | error e => exact error (h e)
  | ok a => exact ok

theorem bind {x : Traced α} {f : α → Traced β} (hx : BlamesNone x.result)
    (hf : ∀ a, BlamesNone (f a).result) : BlamesNone (x >>= f).result := by
  rw [Traced.result_bind]
  cases hr : x.result with
  | error r => exact error fun id faults he => hx id faults (he ▸ hr)
  | ok a => exact hf a

theorem require {condition : Bool} {r : Refusal} (h : ∀ id faults, r ≠ .brokenSnapshot id faults) :
    BlamesNone (Traced.require condition r).result := by
  unfold Traced.require
  split
  · exact ok
  · exact error h

/-! ## Steps of operations -/

variable {s : Service} {store : Store} {party : Party} {supply : Supply}

theorem loaded {id : String} : BlamesNone (store.loaded id) :=
  mapError fun e => by cases e <;> exact nofun

theorem fresh : BlamesNone (Traced.fresh supply).result := mapError nofun

theorem editable {id : String} {d : Option Document} : BlamesNone (Store.editable party id d) := by
  unfold Store.editable
  split
  · exact error nofun
  · split
    · exact error nofun
    · split
      · exact error nofun
      · exact ok

theorem meant {d : Document} {r : PublishRequest} : BlamesNone (Service.meant d r) := by
  unfold Service.meant
  split
  · exact ok
  · exact error nofun

theorem publishable {v : Version} : BlamesNone v.publishable := by
  unfold Version.publishable
  split
  · exact error nofun
  · exact ok

theorem canonical {document : Option Fields} {d : Definition} :
    BlamesNone (s.canonical document d) := by
  unfold Service.canonical
  split
  · exact ok
  · exact error nofun

theorem examine {directory : Directory Unread} {w : Workflow} {current : Option String}
    {stage : Stage} : BlamesNone (s.examine directory w party current stage).result := by
  have hvalidate : BlamesNone (s.validate w stage) := mapError nofun
  have hreview : BlamesNone (s.review directory w party current stage) :=
    mapError fun o => by
      cases o with
      | unordered kind => exact nofun
      | noAnswer error => cases error <;> exact nofun
  exact bind hvalidate fun _ => bind hreview fun _ => bind ok fun _ => ok

theorem snapshotOf {w : Workflow} : BlamesNone (Plan.snapshotOf w) := by
  unfold Plan.snapshotOf
  split
  · exact ok
  · exact error nofun

theorem takeCode {d : Document} {after : Option String} :
    BlamesNone (Plan.takeCode d after).result := by
  refine bind ok fun _ => ?_
  split
  · exact ok
  · exact error nofun

theorem write {d : Document} : BlamesNone (store.write d) := by
  unfold Store.write
  cases hp : store.placeFor d.definition.id with
  | error r =>
    refine error fun id faults he => ?_
    rw [he, Store.placeFor] at hp
    split at hp
    · split at hp <;> cases hp
    · cases hp
  | ok p =>
    change BlamesNone (if _ then .ok _ else .error _)
    split
    · exact ok
    · exact error nofun

theorem copy {id : String} : BlamesNone (store.copy id).result := by
  refine bind loaded fun found => ?_
  split
  · exact error nofun
  · exact ok

/-! ## Whole operations -/

theorem planCreate {directory : Directory Unread} {r : CreateRequest} :
    BlamesNone (s.planCreate store directory party r supply).result := by
  have howner : BlamesNone party.asOwner := by
    unfold Party.asOwner
    split
    · exact ok
    · exact error nofun
  refine bind ok fun _ => ?_
  refine bind (require nofun) fun _ => ?_
  refine bind ok fun _ => ?_
  refine bind fresh fun _ => ?_
  refine bind howner fun _ => ?_
  refine bind canonical fun _ => ?_
  exact bind examine fun _ => ok

theorem planSave {directory : Directory Unread} {id : String} {r : VersionRequest} :
    BlamesNone (s.planSave store directory party id r).result := by
  refine bind loaded fun _ => ?_
  refine bind editable fun _ => ?_
  refine bind canonical fun _ => ?_
  exact bind examine fun _ => ok

theorem stageCreate {definition : Definition} {w : Workflow} {changelog : Option String} :
    BlamesNone (Plan.stageCreate store definition w changelog supply).result := by
  refine bind snapshotOf fun _ => ?_
  refine bind ok fun _ => ?_
  refine bind fresh fun _ => ?_
  exact bind (bind ok fun _ => require nofun) fun _ => ok

variable {d : Document} {id : String}

theorem stageSave {w : Workflow} {changelog : Option String} :
    BlamesNone (Plan.stageSave party id w changelog supply d).result := by
  refine bind (editable (d := some d)) fun _ => ?_
  refine bind takeCode fun _ => ?_
  refine bind snapshotOf fun _ => ?_
  refine bind ok fun _ => ?_
  exact bind fresh fun _ => ok

theorem stagePublish {versionId seenAt : String} {comment : Option String} :
    BlamesNone (Plan.stagePublish party id versionId seenAt comment supply d).result := by
  have hthere : ∀ d, BlamesNone (Plan.stillThere d versionId) := by
    intro d
    unfold Plan.stillThere
    split
    · exact ok
    · exact error nofun
  refine bind (editable (d := some d)) fun _ => ?_
  refine bind (hthere _) fun _ => ?_
  refine bind publishable fun _ => ?_
  refine bind (require nofun) fun _ => ?_
  refine bind fresh fun _ => ?_
  exact bind takeCode fun _ => bind ok fun _ => bind ok fun _ => ok

theorem stageUpdate {r : UpdateRequest} :
    BlamesNone (Plan.stageUpdate party id r supply d).result := by
  refine bind (editable (d := some d)) fun _ => ?_
  exact bind fresh fun _ => ok

theorem stageRemove : BlamesNone (Plan.stageRemove party id supply d).result := by
  have hretired : ∀ d, BlamesNone (Plan.retired d supply).result := by
    intro d
    unfold Plan.retired
    split
    · exact ok
    · exact bind fresh fun _ => ok
  refine bind (require nofun) fun _ => ?_
  exact bind (hretired _) fun _ => ok

theorem stage (c : Change) : BlamesNone (Plan.stage store party supply c).result := by
  cases c with
  | create definition w changelog => exact stageCreate
  | save id w changelog => exact bind copy fun _ => stageSave
  | publish id versionId seenAt comment => exact bind copy fun _ => stagePublish
  | update id r => exact bind copy fun _ => stageUpdate
  | remove id => exact bind copy fun _ => stageRemove

/-- **Acting on a plan** blames no snapshot. -/
theorem commit (p : Plan) : BlamesNone (p.commit store supply).result := by
  refine bind (bind ?_ fun _ => stage p.change) fun _ => bind write fun _ => bind ok fun _ => ok
  unfold Plan.accept
  split
  · exact ok
  · split
    · exact ok
    · exact bind ok fun _ => error nofun

end BlamesNone

/-! ## Who blames a snapshot -/

namespace Service

variable {s : Service} {store : Store} {party : Party} {directory : Directory Unread}

end Service

end WorkflowRelease
