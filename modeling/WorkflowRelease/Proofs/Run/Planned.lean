import WorkflowRelease.Release.Plan

/-!
# Planned changes

What a plan rests on: what has been found in the store at the time of the look, and what validation
and review have said. Edits and archiving rest on nothing. Main statement:
`Service.planned_of_planAsking`, there are no other plans.
-/

namespace WorkflowRelease

/-- What examining a workflow has found. -/
inductive Examined (s : Service) (directory : Directory Unread) (w : Workflow)
    (party : Party) (current : Option String) (stage : Stage) : Finding → Prop
  | merged {structural governance : Verdict} (validated : s.validate w stage = .ok structural)
      (reviewed : s.review directory w party current stage = .ok governance) :
      Examined s directory w party current stage
        ⟨w.workflowId, stage, structural.merge governance⟩

/-- A plan that a command leads to. -/
inductive Planned (s : Service) (store : Store) (directory : Directory Unread)
    (party : Party) (supply : Supply) : Command → Plan → Prop
  | create {r : CreateRequest} {fresh : Fresh} {owner : String} {w : Workflow} {f : Finding}
      (free : store.ofWorkflowId? r.workflowId = none) (drawn : supply.fresh = .ok fresh)
      (owned : party.asOwner = .ok owner)
      (canonical : s.canonical r.snapshot (r.definition owner fresh) = .ok w)
      (examined : Examined s directory w party none .save f) :
      Planned s store directory party supply (.create r)
        ⟨party, .create (r.definition owner fresh) w r.changelog, some f⟩
  | save {id : String} {r : VersionRequest} {d : Document} {w : Workflow} {f : Finding}
      (loaded : store.load id = .ok (some d)) (owned : party = .user d.definition.ownerUserId)
      (editable : d.definition.status ≠ .archived)
      (canonical : s.canonical (some r.snapshot) d.definition = .ok w)
      (examined : Examined s directory w party (some id) .save f) :
      Planned s store directory party supply (.save id r)
        ⟨party, .save id w r.changelog, some f⟩
  | publish {id : String} {r : PublishRequest} {d : Document} {target : Version} {w : Workflow}
      {f : Finding} (loaded : store.load id = .ok (some d))
      (owned : party = .user d.definition.ownerUserId)
      (editable : d.definition.status ≠ .archived)
      (meant : d.findVersion? r.versionId r.versionCode = some target)
      (unpublished : target.status ≠ .published)
      (snapshot : Workflow.ofFields target.snapshot = .valid w)
      (examined : Examined s directory w party (some id) .publish f) :
      Planned s store directory party supply (.publish id r)
        ⟨party, .publish id target.id d.definition.updatedAt r.comment, some f⟩
  | update {id : String} {r : UpdateRequest} :
      Planned s store directory party supply (.update id r) ⟨party, .update id r, none⟩
  | remove {id : String} :
      Planned s store directory party supply (.remove id) ⟨party, .remove id, none⟩

namespace Traced

theorem require_eq_ok {condition : Bool} {r : Refusal} {u : Unit} :
    (require condition r).result = .ok u ↔ condition = true :=
  result_require_eq_ok_iff

theorem fresh_eq_ok {supply : Supply} {f : Fresh} :
    (fresh supply).result = .ok f ↔ supply.fresh = .ok f := by
  rw [fresh, result_ofExcept]
  exact mapError_eq_ok

end Traced

theorem Version.publishable_eq_ok {v : Version} {u : Unit} :
    v.publishable = .ok u ↔ v.status ≠ .published := by
  unfold publishable
  split <;> simp_all

namespace Service

variable {s : Service} {store : Store} {directory : Directory Unread} {party : Party}
  {supply : Supply} {p : Plan}

theorem examined_of_examine {w : Workflow} {current : Option String} {stage : Stage}
    {f : Finding} (h : (s.examine directory w party current stage).result = .ok f) :
    Examined s directory w party current stage f := by
  simp only [examine, Traced.result_bind_eq_ok_iff, Traced.result_ofExcept,
    Traced.result_pure] at h
  obtain ⟨structural, hs, governance, hg, -, -, h⟩ := h
  cases h
  exact .merged hs hg

theorem meant_eq_ok {d : Document} {r : PublishRequest} {v : Version} (h : meant d r = .ok v) :
    d.findVersion? r.versionId r.versionCode = some v := by
  unfold meant at h
  split at h
  · rename_i hf
    cases h
    exact hf
  · cases h

theorem stored_eq_ok {v : Version} {w : Workflow} (h : stored v = .ok w) :
    Workflow.ofFields v.snapshot = .valid w := by
  unfold stored at h
  split at h
  · rename_i hv
    cases h
    exact hv
  · cases h

theorem planned_of_planCreate {r : CreateRequest}
    (h : (s.planCreate store directory party r supply).result = .ok p) :
    Planned s store directory party supply (.create r) p := by
  simp only [planCreate, Traced.result_bind_eq_ok_iff, Traced.result_ofExcept,
    Traced.require_eq_ok, Traced.fresh_eq_ok, Traced.result_pure,
    Option.isNone_iff_eq_none] at h
  obtain ⟨-, -, -, hfree, -, -, fresh, hf, owner, ho, w, hw, f, he, h⟩ := h
  cases h
  exact .create hfree hf ho hw (examined_of_examine he)

theorem planned_of_planSave {id : String} {r : VersionRequest}
    (h : (s.planSave store directory party id r).result = .ok p) :
    Planned s store directory party supply (.save id r) p := by
  simp only [planSave, Traced.result_bind_eq_ok_iff, Traced.result_ofExcept,
    Store.loaded_eq_ok, Traced.result_pure] at h
  obtain ⟨found, hl, d, hd, w, hw, f, he, h⟩ := h
  obtain ⟨rfl, ho, ha⟩ := Store.editable_eq_ok_iff.1 hd
  cases h
  exact .save hl ho ha hw (examined_of_examine he)

theorem planned_of_planPublish {id : String} {r : PublishRequest}
    (h : (s.planPublish store directory party id r).result = .ok p) :
    Planned s store directory party supply (.publish id r) p := by
  simp only [planPublish, Traced.result_bind_eq_ok_iff, Traced.result_ofExcept,
    Store.loaded_eq_ok, Version.publishable_eq_ok, Traced.result_pure] at h
  obtain ⟨found, hl, d, hd, target, hm, -, hu, w, hw, f, he, h⟩ := h
  obtain ⟨rfl, ho, ha⟩ := Store.editable_eq_ok_iff.1 hd
  cases h
  exact .publish hl ho ha (meant_eq_ok hm) hu (stored_eq_ok hw) (examined_of_examine he)

/-- **Every plan** rests on what the look has found. -/
theorem planned_of_planAsking {command : Command}
    (h : (s.planAsking store directory party supply command).result = .ok p) :
    Planned s store directory party supply command p := by
  cases command with
  | create r => exact planned_of_planCreate h
  | save id r => exact planned_of_planSave h
  | publish id r => exact planned_of_planPublish h
  | update id r =>
    cases h
    exact .update
  | remove id =>
    cases h
    exact .remove

end Service

end WorkflowRelease
