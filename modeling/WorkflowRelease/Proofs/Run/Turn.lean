import WorkflowRelease.Proofs.Run.Planned
import WorkflowRelease.Proofs.Run.Stored

/-!
# Turns

What an operation that carries out its plan stages. It founds a definition, with a document of its
own, or it turns the document of a definition into the next one. `Turns` lists the ways in which it
does so, with all that has been checked on the way. Main statements: `Turns.extends`, a turn only
adds to the history of a document, and `Plan.stages_of_enter`, there are no other ways.
-/

namespace WorkflowRelease

/-- A change turns a document into another one. -/
inductive Turns (party : Party) (supply : Supply) : Change → Document → Document → Prop
  | save {id : String} {w : Workflow} {changelog : Option String} {d : Document} {fresh : Fresh}
      {code : VersionCode} {snapshot : Fields}
      (owned : party = .user d.definition.ownerUserId)
      (editable : d.definition.status ≠ .archived) (drawn : supply.fresh = .ok fresh)
      (coded : d.nextCode d.definition.latestVersionCode = some code)
      (written : Plan.snapshotOf w = .ok snapshot) :
      Turns party supply (.save id w changelog) d
        (d.addDraft
          (Document.draft code snapshot changelog id d.definition.ownerUserId fresh) fresh.now)
  | publish {id versionId seenAt : String} {comment : Option String} {d : Document}
      {target : Version} {fresh : Fresh} {code : VersionCode}
      (owned : party = .user d.definition.ownerUserId)
      (editable : d.definition.status ≠ .archived)
      (meant : d.findVersion? (some versionId) none = some target)
      (unpublished : target.status ≠ .published) (unchanged : d.definition.updatedAt = seenAt)
      (drawn : supply.fresh = .ok fresh) (coded : d.nextCode (some target.code) = some code) :
      Turns party supply (.publish id versionId seenAt comment) d
        (d.publish (d.outcome target code comment id d.definition.ownerUserId fresh)
          d.definition.ownerUserId fresh.now)
  | update {id : String} {r : UpdateRequest} {d : Document} {fresh : Fresh}
      (owned : party = .user d.definition.ownerUserId)
      (editable : d.definition.status ≠ .archived) (drawn : supply.fresh = .ok fresh) :
      Turns party supply (.update id r) d (d.edit r fresh.now)
  | remove {id : String} {d : Document} {fresh : Fresh}
      (owned : party = .user d.definition.ownerUserId)
      (editable : d.definition.status ≠ .archived) (drawn : supply.fresh = .ok fresh) :
      Turns party supply (.remove id) d (d.retire fresh.now)
  | removed {id : String} {d : Document} (owned : party = .user d.definition.ownerUserId)
      (archived : d.definition.status = .archived) :
      Turns party supply (.remove id) d d

/-- The definition that a command is for. -/
def Command.target? : Command → Option String
  | .create _ => none
  | .save id _ | .publish id _ | .update id _ | .remove id => some id

/-- The definition whose document a change turns. -/
def Change.target? : Change → Option String
  | .create .. => none
  | .save id .. | .publish id .. | .update id _ | .remove id => some id

/-- What is staged for a change of a store. -/
inductive Stages (party : Party) (supply : Supply) (c : Change) (s : Store) : Document → Prop
  | found {definition : Definition} {w : Workflow} {changelog : Option String}
      {snapshot : Fields} {fresh : Fresh} (creates : c = .create definition w changelog)
      (written : Plan.snapshotOf w = .ok snapshot) (drawn : supply.fresh = .ok fresh)
      (free : s.ofWorkflowId? definition.workflowId = none) :
      Stages party supply c s
        (.first definition (Version.initial definition snapshot changelog fresh))
  | turn {id : String} {d d' : Document} (target : c.target? = some id)
      (loaded : s.load id = .ok (some d)) (turns : Turns party supply c d d') :
      Stages party supply c s d'

/-! ## What a turn keeps -/

theorem Supply.fresh_eq_ok {supply : Supply} {fresh : Fresh} (h : supply.fresh = .ok fresh) :
    supply.time = .ok fresh.now ∧ fresh.definitionId = supply.definitionId ∧
      fresh.versionId = supply.versionId ∧ fresh.auditId = supply.auditId := by
  unfold Supply.fresh at h
  cases ht : supply.time with
  | error e => simp [ht, Except.map] at h
  | ok now =>
    rw [ht] at h
    cases h
    exact ⟨rfl, rfl, rfl, rfl⟩

/-- Records can be made as long as the clock shows a time. -/
theorem Supply.exists_fresh {supply : Supply} {now : String} (h : supply.time = .ok now) :
    ∃ fresh, supply.fresh = .ok fresh ∧ fresh.now = now ∧
      fresh.definitionId = supply.definitionId :=
  ⟨⟨now, supply.definitionId, supply.versionId, supply.auditId⟩, by rw [fresh, h]; rfl, rfl, rfl⟩

/-- The version without what a publication sets. -/
def Version.unmarked (v : Version) : Version :=
  { v with status := .draft, publishedBy := none, publishedAt := none }

/-- The document continues another one: its versions and audits begin with those of the other,
up to what publications set, and it is about the same definition of the same owner. -/
structure Document.Extends (d' d : Document) : Prop where
  id : d'.definition.id = d.definition.id
  workflowId : d'.definition.workflowId = d.definition.workflowId
  mode : d'.definition.mode = d.definition.mode
  owner : d'.definition.ownerUserId = d.definition.ownerUserId
  source : d'.definition.source = d.definition.source
  createdAt : d'.definition.createdAt = d.definition.createdAt
  versions : d.versions.map Version.unmarked <+: d'.versions.map Version.unmarked
  audits : d.audits <+: d'.audits

theorem Document.Extends.refl (d : Document) : d.Extends d :=
  ⟨rfl, rfl, rfl, rfl, rfl, rfl, List.prefix_rfl, List.prefix_rfl⟩

theorem Document.Extends.trans {d d' d'' : Document} (h' : d''.Extends d') (h : d'.Extends d) :
    d''.Extends d where
  id := h'.id.trans h.id
  workflowId := h'.workflowId.trans h.workflowId
  mode := h'.mode.trans h.mode
  owner := h'.owner.trans h.owner
  source := h'.source.trans h.source
  createdAt := h'.createdAt.trans h.createdAt
  versions := h.versions.trans h'.versions
  audits := h.audits.trans h'.audits

theorem map_modifyFirst {α β : Type} {f : α → β} {test : α → Bool} {change : α → α}
    (h : ∀ a, f (change a) = f a) (as : List α) :
    (modifyFirst test change as).map f = as.map f := by
  induction as with
  | nil => rfl
  | cons a as ih =>
    unfold modifyFirst
    split
    · rw [List.map_cons, List.map_cons, h]
    · rw [List.map_cons, List.map_cons, ih]

theorem unmarked_publishedVersions (id user now : String) (versions : List Version) :
    (Document.publishedVersions id user now versions).map Version.unmarked =
      versions.map Version.unmarked := by
  have hpublished : ∀ v : Version, (v.markPublished user now).unmarked = v.unmarked :=
    fun _ => rfl
  unfold Document.publishedVersions
  rw [map_modifyFirst hpublished, List.map_map]
  apply List.map_congr_left
  intro v _
  show Version.unmarked (if _ then _ else _) = _
  split <;> rfl

/-- The snapshots of a published document were there before, that of the draft with the target. -/
theorem Document.exists_snapshot_of_publish {d : Document} {target : Version} {code : VersionCode}
    {comment : Option String} {id user : String} {fresh : Fresh} (ht : target ∈ d.versions)
    {v : Version} (hv : v ∈ (d.publish (d.outcome target code comment id user fresh) user
      fresh.now).versions) : ∃ v' ∈ d.versions, v'.snapshot = v.snapshot := by
  rw [versions_publish, List.mem_append, List.mem_singleton] at hv
  rcases hv with hv | rfl
  · have hmem := List.mem_map_of_mem (f := Version.unmarked) hv
    rw [unmarked_publishedVersions] at hmem
    obtain ⟨v', hv', hsame⟩ := List.mem_map.1 hmem
    exact ⟨v', hv', congrArg (·.snapshot) hsame⟩
  · exact ⟨target, ht, rfl⟩

/-- A turn leaves the versions as they are, or adds one. -/
theorem Turns.versions_eq {party : Party} {supply : Supply} {c : Change} {d d' : Document}
    (h : Turns party supply c d d') :
    d'.versions.map Version.unmarked = d.versions.map Version.unmarked ∨
    ∃ v, v.id = supply.versionId ∧
      d'.versions.map Version.unmarked = d.versions.map Version.unmarked ++ [v] := by
  cases h with
  | save _ _ drawn _ _ =>
    obtain ⟨-, -, hid, -⟩ := Supply.fresh_eq_ok drawn
    refine .inr ⟨_, ?_, List.map_append⟩
    exact hid
  | publish _ _ _ _ _ drawn _ =>
    obtain ⟨-, -, hid, -⟩ := Supply.fresh_eq_ok drawn
    rw [Document.versions_publish, List.map_append, unmarked_publishedVersions]
    refine .inr ⟨_, ?_, rfl⟩
    exact hid
  | update _ _ _ => exact .inl rfl
  | remove _ editable _ =>
    rw [Document.retire, if_neg editable]
    exact .inl rfl
  | removed _ _ => exact .inl rfl

/-- **A turn** only adds to the history of a document. -/
theorem Turns.extends {party : Party} {supply : Supply} {c : Change} {d d' : Document}
    (h : Turns party supply c d d') : d'.Extends d := by
  have hversions : d.versions.map Version.unmarked <+: d'.versions.map Version.unmarked := by
    rcases h.versions_eq with he | ⟨v, -, he⟩
    · exact he ▸ List.prefix_rfl
    · exact he ▸ List.prefix_append _ _
  cases h with
  | save _ _ _ _ _ => exact ⟨rfl, rfl, rfl, rfl, rfl, rfl, hversions, List.prefix_rfl⟩
  | publish _ _ _ _ _ _ _ =>
    exact ⟨rfl, rfl, rfl, rfl, rfl, rfl, hversions, List.prefix_append _ _⟩
  | update _ _ _ => exact ⟨rfl, rfl, rfl, rfl, rfl, rfl, hversions, List.prefix_rfl⟩
  | remove _ editable _ =>
    rw [Document.retire, if_neg editable]
    exact ⟨rfl, rfl, rfl, rfl, rfl, rfl, List.prefix_rfl, List.prefix_rfl⟩
  | removed _ _ => exact .refl _

/-- Only the owner turns a document, and the next one is theirs as well. -/
theorem Turns.owned {party : Party} {supply : Supply} {c : Change} {d d' : Document}
    (h : Turns party supply c d d') : party = .user d'.definition.ownerUserId := by
  rw [h.extends.owner]
  cases h <;> assumption

/-- A turn that changes anything sets the time of the last change. -/
theorem Turns.eq_or_now {party : Party} {supply : Supply} {c : Change} {d d' : Document}
    (h : Turns party supply c d d') :
    d' = d ∨ ∃ fresh, supply.fresh = .ok fresh ∧ d'.definition.updatedAt = fresh.now := by
  cases h with
  | save _ _ drawn _ _ => exact .inr ⟨_, drawn, rfl⟩
  | publish _ _ _ _ _ drawn _ => exact .inr ⟨_, drawn, rfl⟩
  | update _ _ drawn => exact .inr ⟨_, drawn, rfl⟩
  | remove _ editable drawn =>
    refine .inr ⟨_, drawn, ?_⟩
    rw [Document.retire, if_neg editable]
  | removed _ _ => exact .inl rfl

/-! ## Staging -/

namespace Store

/-- A document is written to the place of its id, if there is one and its snapshots can be written.
-/
theorem write_eq_ok_iff {s s' : Store} {d : Document} : s.write d = .ok s' ↔
    ∃ p, s.placeFor d.definition.id = .ok p ∧
      d.versions.all (·.snapshot.areWritable) = true ∧ s' = s.put p (.document d) := by
  unfold write
  cases s.placeFor d.definition.id with
  | error r => simp [bind, Except.bind]
  | ok p =>
    cases d.versions.all (·.snapshot.areWritable) <;> simp [bind, Except.bind, eq_comm]

theorem write_eq_ok {s s' : Store} {d : Document} (h : s.write d = .ok s') :
    ∃ p, s.folder.placeOf d.definition.id = .ok p ∧ s' = s.put p (.document d) := by
  obtain ⟨p, hp, -, hs⟩ := write_eq_ok_iff.1 h
  exact ⟨p, (placeFor_eq_ok_iff.1 hp).1, hs⟩

theorem copy_eq_ok_iff {s : Store} {id : String} {d : Document} :
    (s.copy id).result = .ok d ↔ s.load id = .ok (some d) := by
  rw [copy, Traced.result_bind_eq_ok_iff]
  simp only [Traced.result_ofExcept, loaded_eq_ok]
  constructor
  · rintro ⟨found, hload, h⟩
    cases found with
    | none => cases h
    | some e =>
      cases h
      exact hload
  · exact fun hload => ⟨some d, hload, rfl⟩

theorem requireFree_eq_ok_iff {s : Store} {workflowId : String} {u : Unit} :
    (s.requireFree workflowId).result = .ok u ↔ s.ofWorkflowId? workflowId = none := by
  rw [requireFree, Traced.result_bind_of_ok (Traced.result_logAll _), Traced.require_eq_ok,
    Option.isNone_iff_eq_none]

end Store

namespace Plan

theorem takeCode_eq_ok {d : Document} {after : Option String} {code : VersionCode}
    (h : (takeCode d after).result = .ok code) : d.nextCode after = some code := by
  simp only [takeCode, Traced.result_bind_eq_ok_iff] at h
  obtain ⟨-, -, h⟩ := h
  split at h
  · rename_i hc
    cases h
    exact hc
  · cases h

theorem stillThere_eq_ok {d : Document} {id : String} {v : Version}
    (h : stillThere d id = .ok v) : d.findVersion? (some id) none = some v := by
  unfold stillThere at h
  split at h
  · rename_i hf
    cases h
    exact hf
  · cases h

variable {store store' : Store} {party : Party} {supply : Supply} {x : Staged} {d : Document}

theorem stages_of_stageCreate {definition : Definition} {w : Workflow} {changelog : Option String}
    (h : (stageCreate store definition w changelog supply).result = .ok x) :
    Stages party supply (.create definition w changelog) store x.document := by
  simp only [stageCreate, Traced.result_bind_eq_ok_iff, Traced.result_ofExcept,
    Traced.fresh_eq_ok, Store.requireFree_eq_ok_iff, Traced.result_pure] at h
  obtain ⟨snapshot, hs, -, -, fresh, hf, -, hfree, h⟩ := h
  cases h
  exact .found rfl hs hf hfree

/-- Saving adds a draft to the document as it is now, and answers with it. -/
theorem stageSave_eq_ok {id : String} {w : Workflow} {changelog : Option String}
    (h : (stageSave party id w changelog supply d).result = .ok x) :
    ∃ fresh code snapshot, party = .user d.definition.ownerUserId ∧
      d.definition.status ≠ .archived ∧ supply.fresh = .ok fresh ∧
      d.nextCode d.definition.latestVersionCode = some code ∧ snapshotOf w = .ok snapshot ∧
      x.outcome = .version
        (Document.draft code snapshot changelog id d.definition.ownerUserId fresh) ∧
      x.document = d.addDraft
        (Document.draft code snapshot changelog id d.definition.ownerUserId fresh) fresh.now := by
  simp only [stageSave, Traced.result_bind_eq_ok_iff, Traced.result_ofExcept, Traced.fresh_eq_ok,
    Traced.result_pure] at h
  obtain ⟨e, he, code, hc, snapshot, hs, -, -, fresh, hf, h⟩ := h
  obtain ⟨he, ho, ha⟩ := Store.editable_eq_ok_iff.1 he
  cases he
  cases h
  exact ⟨fresh, code, snapshot, ho, ha, hf, takeCode_eq_ok hc, hs, rfl, rfl⟩

theorem turns_of_stageSave {id : String} {w : Workflow} {changelog : Option String}
    (h : (stageSave party id w changelog supply d).result = .ok x) :
    Turns party supply (.save id w changelog) d x.document := by
  obtain ⟨fresh, code, snapshot, ho, ha, hf, hc, hs, -, hd⟩ := stageSave_eq_ok h
  rw [hd]
  exact .save ho ha hf hc hs

theorem turns_of_stagePublish {id versionId seenAt : String} {comment : Option String}
    (h : (stagePublish party id versionId seenAt comment supply d).result = .ok x) :
    Turns party supply (.publish id versionId seenAt comment) d x.document := by
  simp only [stagePublish, Traced.result_bind_eq_ok_iff, Traced.result_ofExcept,
    Traced.fresh_eq_ok, Traced.require_eq_ok, Version.publishable_eq_ok, Traced.result_pure,
    decide_eq_true_eq] at h
  obtain ⟨e, he, target, htarget, -, hpub, -, hseen, fresh, hf, code, hc, -, -, -, -, h⟩ := h
  obtain ⟨he, ho, ha⟩ := Store.editable_eq_ok_iff.1 he
  cases he
  cases h
  exact .publish ho ha (stillThere_eq_ok htarget) hpub hseen hf (takeCode_eq_ok hc)

theorem turns_of_stageUpdate {id : String} {r : UpdateRequest}
    (h : (stageUpdate party id r supply d).result = .ok x) :
    Turns party supply (.update id r) d x.document := by
  simp only [stageUpdate, Traced.result_bind_eq_ok_iff, Traced.result_ofExcept,
    Traced.fresh_eq_ok, Traced.result_pure] at h
  obtain ⟨e, he, fresh, hf, h⟩ := h
  obtain ⟨he, ho, ha⟩ := Store.editable_eq_ok_iff.1 he
  cases he
  cases h
  exact .update ho ha hf

theorem turns_of_retired {id : String} {d' : Document}
    (ho : party = .user d.definition.ownerUserId) (h : (retired d supply).result = .ok d') :
    Turns party supply (.remove id) d d' := by
  unfold retired at h
  split at h
  · rename_i ha
    cases h
    exact .removed ho ha
  · rename_i ha
    simp only [Traced.result_bind_eq_ok_iff, Traced.fresh_eq_ok, Traced.result_pure] at h
    obtain ⟨fresh, hf, h⟩ := h
    cases h
    exact .remove ho ha hf

/-- Removing archives the document as it is now, and answers with its definition. -/
theorem stageRemove_eq_ok {id : String}
    (h : (stageRemove party id supply d).result = .ok x) :
    party = .user d.definition.ownerUserId ∧ (retired d supply).result = .ok x.document ∧
      x.outcome = .definition x.document.definition := by
  simp only [stageRemove, Traced.result_bind_eq_ok_iff, Traced.require_eq_ok,
    Traced.result_pure, Definition.isOwnedBy, decide_eq_true_eq] at h
  obtain ⟨-, ho, e, he, h⟩ := h
  cases h
  exact ⟨ho, he, rfl⟩

/-- What is staged for a change founds a definition or turns a document. -/
theorem stages_of_stage {c : Change} (h : (stage store party supply c).result = .ok x) :
    Stages party supply c store x.document := by
  cases c with
  | create definition w changelog => exact stages_of_stageCreate h
  | save id w changelog =>
    obtain ⟨d, hd, h⟩ := Traced.result_bind_eq_ok_iff.1 h
    exact .turn rfl (Store.copy_eq_ok_iff.1 hd) (turns_of_stageSave h)
  | publish id versionId seenAt comment =>
    obtain ⟨d, hd, h⟩ := Traced.result_bind_eq_ok_iff.1 h
    exact .turn rfl (Store.copy_eq_ok_iff.1 hd) (turns_of_stagePublish h)
  | update id r =>
    obtain ⟨d, hd, h⟩ := Traced.result_bind_eq_ok_iff.1 h
    exact .turn rfl (Store.copy_eq_ok_iff.1 hd) (turns_of_stageUpdate h)
  | remove id =>
    obtain ⟨d, hd, h⟩ := Traced.result_bind_eq_ok_iff.1 h
    obtain ⟨ho, he, -⟩ := stageRemove_eq_ok h
    exact .turn rfl (Store.copy_eq_ok_iff.1 hd) (turns_of_retired ho he)

/-- **A plan whose change is staged** was found valid, and founds a definition or turns a
document. -/
theorem stages_of_enter {p : Plan} (h : (p.enter store supply).result = .ok x) :
    (∀ f, p.finding = some f → f.verdict.valid = true) ∧
      Stages p.party supply p.change store x.document := by
  rw [enter, Traced.result_bind_eq_ok_iff] at h
  obtain ⟨⟨⟩, hf, h⟩ := h
  exact ⟨result_accept_eq_ok_iff.1 hf, stages_of_stage h⟩

/-- A plan that goes through puts what is staged into the place of its id. -/
theorem stages_of_commit {p : Plan} {outcome : Outcome}
    (h : (p.commit store supply).result = .ok (store', outcome)) :
    (∀ f, p.finding = some f → f.verdict.valid = true) ∧
      ∃ d q, Stages p.party supply p.change store d ∧
        store.folder.placeOf d.definition.id = .ok q ∧ store' = store.put q (.document d) := by
  obtain ⟨x, hx, hw, -⟩ := result_commit_eq_ok_iff.1 h
  obtain ⟨hf, hstages⟩ := stages_of_enter hx
  obtain ⟨q, hq, hput⟩ := Store.write_eq_ok hw
  exact ⟨hf, x.document, q, hstages, hq, hput⟩

end Plan

end WorkflowRelease
