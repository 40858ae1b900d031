import WorkflowRelease.Proofs.Archived
import WorkflowRelease.Proofs.Numbering
import WorkflowRelease.Proofs.Privacy.Hidden
import WorkflowRelease.Proofs.Snapshot.Again
import WorkflowRelease.Proofs.Vetting

/-!
# Publications on their own

What it takes to publish a version when nobody moves between the look and the act, and what comes of
it. A stored document can be written again (`Service.areWritable_of_run`), so a request that gets as
far as a verdict is decided by it (`Service.Judges`). Main statement: `published_exactly`. It takes
a document that can be read back and has a code left for the draft.
-/

namespace WorkflowRelease

/-! ## Writing -/

/-- The document can be written, as far as its snapshots go. -/
def Document.AreWritable (d : Document) : Prop :=
  d.versions.all (·.snapshot.areWritable) = true

/-- **The documents of a run** can be written again. -/
theorem Service.areWritable_of_run (s : Service) {ms : List Move} {d : Document}
    (hd : d ∈ (s.run ms).store.stored) : d.AreWritable := by
  induction ms using List.reverseRecOn with
  | nil => cases hd
  | append_singleton ms m ih =>
    rw [run_concat] at hd
    rcases store_step s (s.run ms) m with hs | ⟨n, supply, p, o, -, -, hc⟩
    · exact ih (hs ▸ hd)
    · obtain ⟨x, -, hw, -⟩ := Plan.result_commit_eq_ok_iff.1 hc
      obtain ⟨q, -, hwritable, hput⟩ := Store.write_eq_ok_iff.1 hw
      rw [hput] at hd
      rcases Store.mem_stored_put hd with hd | rfl
      · exact ih hd
      · exact hwritable

/-! ## The document of a publication -/

namespace Document

/-- A version is found if it is meant, and no other one is. -/
theorem findVersion?_of_unique {d : Document} {v : Version} {versionId versionCode : Option String}
    (hv : v ∈ d.versions) (hmeant : v.isMeant versionId versionCode = true)
    (hother : ∀ v' ∈ d.versions, v'.isMeant versionId versionCode = true → v' = v) :
    d.findVersion? versionId versionCode = some v := by
  obtain ⟨v', hv'⟩ := Option.isSome_iff_exists.1 (List.find?_isSome.2 ⟨v, hv, hmeant⟩)
  obtain rfl := hother v' (List.mem_of_find?_eq_some hv') (List.find?_some hv')
  exact hv'

/-- The version is the one that its id means. -/
theorem findVersion?_of_mem {d : Document} (hn : (d.versions.map (·.id)).Nodup) {v : Version}
    (hv : v ∈ d.versions) (hid : v.id ≠ "") : d.findVersion? (some v.id) none = some v := by
  have hmeant (v' : Version) : v'.isMeant (some v.id) none = true ↔ v'.id = v.id := by
    rw [Version.isMeant_some hid, decide_eq_true_eq]
  exact findVersion?_of_unique hv ((hmeant v).2 rfl) fun v' hv' h =>
    List.inj_on_of_nodup_map hn hv' hv ((hmeant v').1 h)

/-- There is a code for the next draft iff its number has no more digits than a number may have. -/
theorem Numbered.nextCode_eq_some_iff {d : Document} {n : Nat} (h : d.Numbered n) {after : String}
    (hmem : after ∈ d.codes) {code : VersionCode} :
    d.nextCode (some after) = some code ↔
      code = VersionCode.nth (n + 1) ∧ n + 1 < Nat.pow 10 VersionCode.digitLimit := by
  have hwritable : (VersionCode.nth (n + 1)).isWritable = true ↔
      n + 1 < Nat.pow 10 VersionCode.digitLimit := by
    have hone : 1 < Nat.pow 10 VersionCode.digitLimit := by
      rw [Nat.pow_eq]
      exact Nat.one_lt_pow (by decide) (by decide)
    rw [VersionCode.isWritable, Bool.and_eq_true, Bool.and_eq_true, decide_eq_true_iff,
      decide_eq_true_iff, decide_eq_true_iff]
    generalize Nat.pow 10 VersionCode.digitLimit = limit at hone ⊢
    exact and_iff_right ⟨hone, Nat.lt_trans Nat.one_pos hone⟩
  rw [h.codes] at hmem
  obtain ⟨k, hk, rfl⟩ := VersionCode.mem_codesUpTo.1 hmem
  rw [Document.nextCode, h.codes, VersionCode.successor_codesUpTo hk h.isWritable]
  show ite _ _ _ = _ ↔ _
  rw [Option.ite_some_none_eq_some, ← hwritable, and_comm, eq_comm]
  rfl

/-- The number of the next draft is not that of a version. -/
theorem Numbered.next_not_mem {d : Document} {n : Nat} (h : d.Numbered n) :
    (VersionCode.nth (n + 1)).text ∉ d.codes := by
  rw [h.codes, VersionCode.mem_codesUpTo]
  rintro ⟨k, hk, htext⟩
  have hkn := VersionCode.nth_injective (VersionCode.text_injective htext)
  omega

end Document

/-- A request of a party to publish gets as far as a verdict: they own the definition, which is not
archived, they mean a version that is not published, its snapshot is a workflow, and validation and
review come to an end. -/
structure Service.Judges (s : Service) (store : Store) (party : Party) (id : String)
    (r : PublishRequest) (d : Document) (target : Version) (structural governance : Verdict) :
    Prop where
  owned : party = .user d.definition.ownerUserId
  editable : d.definition.status ≠ .archived
  meant : d.findVersion? r.versionId r.versionCode = some target
  unpublished : target.status ≠ .published
  judged : ∃ w, Workflow.ofFields target.snapshot = .valid w ∧
    s.validate w .publish = .ok structural ∧
    s.review store.directory w party (some id) .publish = .ok governance

/-- The one document is the other one when a version has been published by a user at a time: all
others that were published are archived, a draft follows that continues the version under a new
code, and an audit tells of it. -/
structure Document.IsPublication (d' d : Document) (target draft : Version) (audit : Audit)
    (user now : String) (comment : Option String) : Prop where
  definition : d'.definition =
    { d.definition with
      status := .active
      isActive := true
      latestVersionCode := some draft.code
      updatedAt := now }
  versions : d'.versions = d.versions.map (fun v =>
    if v = target then
      { v with status := .published, publishedBy := some user, publishedAt := some now }
    else if v.status = .published then { v with status := .archived }
    else v) ++ [draft]
  isDraft : draft.status = .draft
  newCode : draft.code ∉ d.codes
  continued : draft.snapshot = target.snapshot
  audits : d'.audits = d.audits ++ [audit]
  audit : audit =
    { id := audit.id
      definitionId := audit.definitionId
      versionId := target.id
      versionCode := target.code
      archivedVersionIds :=
        (d.versions.filter fun v => v ≠ target ∧ v.status = .published).map (·.id)
      archivedVersionCodes :=
        (d.versions.filter fun v => v ≠ target ∧ v.status = .published).map (·.code)
      draftVersionId := draft.id
      draftVersionCode := draft.code
      comment
      publishedBy := user
      publishedAt := now }

namespace Document

variable {d : Document} {target : Version} {code : VersionCode} {comment : Option String}
  {id user : String} {fresh : Fresh}

/-- Ids tell the versions of a document apart. -/
theorem id_eq_iff (hn : (d.versions.map (·.id)).Nodup) {v w : Version} (hv : v ∈ d.versions)
    (hw : w ∈ d.versions) : v.id = w.id ↔ v = w :=
  ⟨List.inj_on_of_nodup_map hn hv hw, congrArg Version.id⟩

theorem filter_isReplacedBy (hn : (d.versions.map (·.id)).Nodup) (ht : target ∈ d.versions) :
    d.versions.filter (·.isReplacedBy target.id) =
      d.versions.filter fun v => v ≠ target ∧ v.status = .published := by
  apply List.filter_congr
  intro v hv
  simp [Version.isReplacedBy, id_eq_iff hn hv ht, Bool.and_comm]

/-- **A published document** is what a publication of the version comes to. -/
theorem isPublication_publish (hn : (d.versions.map (·.id)).Nodup) (ht : target ∈ d.versions)
    (hid : target.id ≠ "") (hcode : code.text ∉ d.codes) :
    (d.publish (d.outcome target code comment id user fresh) user fresh.now).IsPublication d target
      (continuation target code id user fresh) (d.outcome target code comment id user fresh).audit
      user fresh.now comment where
  definition := rfl
  versions := by
    have hversions := publishedVersions_eq_map hid user fresh.now hn
    rw [versions_publish]
    refine congrArg (· ++ _) (hversions.trans (List.map_congr_left fun v hv => ?_))
    simp only [Version.atPublication, id_eq_iff hn hv ht]
    rfl
  isDraft := rfl
  newCode := hcode
  continued := rfl
  audits := rfl
  audit := by
    simp only [outcome, filter_isReplacedBy hn ht, List.map_map]
    rfl

/-- A published document can be written again: its draft has the snapshot of another version. -/
theorem AreWritable.publish (h : d.AreWritable) (ht : target ∈ d.versions) :
    (d.publish (d.outcome target code comment id user fresh) user fresh.now).AreWritable := by
  refine List.all_eq_true.2 fun v hv => ?_
  obtain ⟨v', hv', hsnapshot⟩ := exists_snapshot_of_publish ht hv
  rw [← hsnapshot]
  exact List.all_eq_true.1 h v' hv'

end Document

/-! ## The look and the act -/

section

variable {s : Service} {store store' : Store} {party : Party} {id : String} {r : PublishRequest}
  {d : Document} {target : Version} {structural governance : Verdict} {supply : Supply}

/-- A request that gets as far as a verdict leads to a plan. -/
theorem Service.Judges.result_plan (h : s.Judges store party id r d target structural governance)
    (hl : store.load id = .ok (some d)) (supply : Supply) :
    ∃ workflowId, (s.plan store party supply (.publish id r)).result =
      .ok ⟨party, .publish id target.id d.definition.updatedAt r.comment,
        some ⟨workflowId, .publish, structural.merge governance⟩⟩ := by
  obtain ⟨w, hw, hstructural, hgovernance⟩ := h.judged
  have hedit : Store.editable party id (some d) = .ok d :=
    Store.editable_eq_ok_iff.2 ⟨rfl, h.owned, h.editable⟩
  have hmeant : Service.meant d r = .ok target := by rw [Service.meant, h.meant]
  have hpublishable : target.publishable = .ok () := Version.publishable_eq_ok.2 h.unpublished
  have hstored : stored target = .ok w := by
    unfold stored
    generalize Workflow.ofFields target.snapshot = x at hw
    rw [hw]
  refine ⟨w.workflowId, ?_⟩
  simp only [Service.plan, planAsking, planPublish, Traced.result_bind, Traced.result_ofExcept,
    Store.loaded_eq_ok.2 hl, hedit, hmeant, hpublishable, hstored, examine, hstructural,
    hgovernance, Traced.result_logAll, Traced.result_pure]

/-- A publication of the document that was looked at is staged. -/
theorem Plan.exists_stagePublish {versionId : String} {comment : Option String} {fresh : Fresh}
    {code : VersionCode} (howned : party = .user d.definition.ownerUserId)
    (heditable : d.definition.status ≠ .archived)
    (hmeant : d.findVersion? (some versionId) none = some target)
    (hunpublished : target.status ≠ .published) (hfresh : supply.fresh = .ok fresh)
    (hcode : d.nextCode (some target.code) = some code) :
    ∃ x, (stagePublish party id versionId d.definition.updatedAt comment supply d).result = .ok x ∧
      x.document = d.publish (d.outcome target code comment id d.definition.ownerUserId fresh)
        d.definition.ownerUserId fresh.now ∧
      x.outcome = .publication
        (d.outcome target code comment id d.definition.ownerUserId fresh) := by
  have hedit : Store.editable party id (some d) = .ok d :=
    Store.editable_eq_ok_iff.2 ⟨rfl, howned, heditable⟩
  have hpublishable : target.publishable = .ok () := Version.publishable_eq_ok.2 hunpublished
  have hseen : (Traced.require (decide True) (.outdated id)).result = .ok () := rfl
  simp only [stagePublish, Traced.result_bind, Traced.result_ofExcept, hedit, stillThere, hmeant,
    hpublishable, hseen, takeCode, hcode, Traced.fresh_eq_ok.2 hfresh, Traced.result_logAll,
    Traced.result_take, Traced.result_pure]
  exact ⟨_, rfl, rfl, rfl⟩

namespace Service

variable {supply' : Supply}

/-- A publication that goes through was found valid, and there was a code for the draft. -/
theorem judges_of_carryOut {x : Store × Outcome}
    (h : (s.carryOut store party supply supply' (.publish id r)).result = .ok x) :
    ∃ d target structural governance, store.load id = .ok (some d) ∧
      s.Judges store party id r d target structural governance ∧
      (structural.merge governance).valid = true ∧
      ∃ after ∈ d.codes, ∃ code, d.nextCode (some after) = some code := by
  obtain ⟨plan, hplan, hc⟩ := Traced.result_bind_eq_ok_iff.1 h
  obtain ⟨hvalid, e, q, hstages, -⟩ := Plan.stages_of_commit hc
  cases planned_of_planAsking hplan with
  | @publish _ _ d target w _ loaded owned editable meant unpublished snapshot examined =>
    cases examined with
    | @merged structural governance validated reviewed =>
      refine ⟨d, target, structural, governance, loaded,
        ⟨owned, editable, meant, unpublished, w, snapshot, validated, reviewed⟩,
        hvalid _ rfl, ?_⟩
      cases hstages with
      | found creates => cases creates
      | turn target loaded' turns =>
        cases target
        rw [loaded] at loaded'
        cases loaded'
        cases turns with
        | publish _ _ meant' _ _ _ coded =>
          exact ⟨_, List.mem_map_of_mem (List.mem_of_find?_eq_some meant'), _, coded⟩

/-- A request that is judged invalid is refused with all that was found. -/
theorem Judges.result_of_invalid (h : s.Judges store party id r d target structural governance)
    (hl : store.load id = .ok (some d)) (hvalid : (structural.merge governance).valid = false) :
    (s.carryOut store party supply supply' (.publish id r)).result =
      .error (.rejected .publish (structural.merge governance)) := by
  obtain ⟨workflowId, hplan⟩ := h.result_plan hl supply
  rw [carryOut, Traced.result_bind_of_ok hplan]
  exact Plan.commit_of_invalid (f := ⟨workflowId, .publish, structural.merge governance⟩) rfl hvalid
    store supply'

/-- A request that is judged valid goes through, if the document can be written and there is a code
for the draft. -/
theorem Judges.result_of_valid (h : s.Judges store party id r d target structural governance)
    (hl : store.load id = .ok (some d)) (hvalid : (structural.merge governance).valid = true)
    (hn : (d.versions.map (·.id)).Nodup) (hid : target.id ≠ "") (hw : d.AreWritable) {p : Place}
    (hp : store.placeFor d.definition.id = .ok p) {fresh : Fresh}
    (hfresh : supply'.fresh = .ok fresh)
    {code : VersionCode} (hcode : d.nextCode (some target.code) = some code) :
    (s.carryOut store party supply supply' (.publish id r)).result =
      .ok (store.put p (.document (d.publish
          (d.outcome target code r.comment id d.definition.ownerUserId fresh)
          d.definition.ownerUserId fresh.now)),
        .publication (d.outcome target code r.comment id d.definition.ownerUserId fresh)) := by
  obtain ⟨workflowId, hplan⟩ := h.result_plan hl supply
  have ht : target ∈ d.versions := List.mem_of_find?_eq_some h.meant
  have haccept : (Plan.accept (some ⟨workflowId, .publish, structural.merge governance⟩)).result =
      .ok () := by
    refine Plan.result_accept_eq_ok_iff.2 ?_
    rintro _ ⟨⟩
    exact hvalid
  have hmeant : d.findVersion? (some target.id) none = some target :=
    d.findVersion?_of_mem hn ht hid
  obtain ⟨x, hx, hdocument, houtcome⟩ :
      ∃ x, (Plan.stagePublish party id target.id d.definition.updatedAt r.comment supply' d).result
          = .ok x ∧ _ :=
    Plan.exists_stagePublish h.owned h.editable hmeant h.unpublished hfresh hcode
  rw [carryOut, Traced.result_bind_of_ok hplan]
  refine Plan.result_commit_eq_ok_iff.2 ⟨x, ?_, ?_, houtcome.symm⟩
  · rw [Plan.enter, Traced.result_bind_of_ok haccept, Plan.stage,
      Traced.result_bind_of_ok (Store.copy_eq_ok_iff.2 hl), hx]
  · rw [hdocument]
    exact Store.write_eq_ok_iff.2 ⟨p, hp, hw.publish ht, rfl⟩

/-- **A publication of a stored document** goes through iff the document can be read back, there is
a number left for the draft, and the request is judged and found valid. -/
theorem result_publish_eq_ok_iff (s : Service) {ms : List Move} (h : Drawn ms) {p : Place}
    (hd : (s.run ms).store.at? p = some (.document d))
    (hp : (s.run ms).store.folder.placeOf id = .ok p) {n : Nat} (hnumbered : d.Numbered n)
    (party : Party) (r : PublishRequest) (supply : Supply) {fresh : Fresh}
    (hfresh : supply'.fresh = .ok fresh) (x : Store × Outcome) :
    (s.carryOut (s.run ms).store party supply supply' (.publish id r)).result = .ok x ↔
      d.toJson.isReadable = true ∧ n + 1 < Nat.pow 10 VersionCode.digitLimit ∧
      ∃ target structural governance,
        s.Judges (s.run ms).store party id r d target structural governance ∧
        (structural.merge governance).valid = true ∧
        x = ((s.run ms).store.put p (.document (d.publish
            (d.outcome target (.nth (n + 1)) r.comment id d.definition.ownerUserId fresh)
            d.definition.ownerUserId fresh.now)),
          .publication
            (d.outcome target (.nth (n + 1)) r.comment id d.definition.ownerUserId fresh)) := by
  have hmem := Store.mem_stored_of_at? hd
  have hgoes {target : Version} {structural governance : Verdict}
      (hread : d.toJson.isReadable = true) (hlimit : n + 1 < Nat.pow 10 VersionCode.digitLimit)
      (hjudged : s.Judges (s.run ms).store party id r d target structural governance)
      (hvalid : (structural.merge governance).valid = true) :
      (s.carryOut (s.run ms).store party supply supply' (.publish id r)).result = .ok _ :=
    have ht : target ∈ d.versions := List.mem_of_find?_eq_some hjudged.meant
    hjudged.result_of_valid (Store.load_eq_some_iff.2 ⟨p, hp, hd, hread⟩) hvalid
      ((h.labelled_run s).nodup d hmem) (h.isName_of_version hmem ht).1 (s.areWritable_of_run hmem)
      (h.placeFor_of_at? hd) hfresh
      ((hnumbered.nextCode_eq_some_iff (List.mem_map_of_mem ht)).2 ⟨rfl, hlimit⟩)
  constructor
  · intro hx
    obtain ⟨e, target, structural, governance, hl, hjudged, hvalid, after, hafter, code, hcode⟩ :=
      judges_of_carryOut hx
    obtain ⟨q, hq, he, hread⟩ := Store.load_eq_some_iff.1 hl
    cases hp.symm.trans hq
    cases hd.symm.trans he
    have hlimit := ((hnumbered.nextCode_eq_some_iff hafter).1 hcode).2
    rw [hgoes hread hlimit hjudged hvalid] at hx
    exact ⟨hread, hlimit, target, structural, governance, hjudged, hvalid, (Except.ok.inj hx).symm⟩
  · rintro ⟨hread, hlimit, target, structural, governance, hjudged, hvalid, rfl⟩
    exact hgoes hread hlimit hjudged hvalid

end Service

end

/-- **Publishing is just what it is said to be.** In every run in which no id is drawn twice, for
every stored document, and whoever asks for whatever version under an id that leads to it, when
nobody moves between the look and the act and the clock shows a time: the request goes through iff
the document can be read back and has a code left, and the request is judged and found valid. What
is stored then is the publication of the first version that is meant, by the party and at that time,
in place of the document, and the answer tells what has changed. A request that is judged but not
found valid is refused with what validation has found, followed by what the review has found. -/
theorem published_exactly (s : Service) (ms : List Move) (h : Drawn ms) (p : Place) (d : Document)
    (hd : (s.run ms).store.at? p = some (.document d)) (id : String)
    (hp : s.folder.placeOf id = .ok p) (party : Party) (r : PublishRequest)
    (supply supply' : Supply) (now : String) (hnow : supply'.time = .ok now) :
    let store := (s.run ms).store
    let result := (s.carryOut store party supply supply' (.publish id r)).result
    ((∃ x, result = .ok x) ↔
      d.toJson.isReadable = true ∧ d.versions.length < Nat.pow 10 VersionCode.digitLimit ∧
      ∃ target structural governance, s.Judges store party id r d target structural governance ∧
        structural.valid = true ∧ governance.valid = true) ∧
    (∀ store' o, result = .ok (store', o) → ∃ target draft audit user d',
      d.findVersion? r.versionId r.versionCode = some target ∧ party = .user user ∧
      d'.IsPublication d target draft audit user now r.comment ∧
      store' = store.put p (.document d') ∧
      o = .publication
        { published :=
            { target with status := .published, publishedBy := some user, publishedAt := some now }
          draft
          archived := (d.versions.filter fun v => v ≠ target ∧ v.status = .published).map
            fun v => { v with status := .archived }
          audit }) ∧
    (∀ target structural governance, d.toJson.isReadable = true →
      s.Judges store party id r d target structural governance →
      (structural.valid && governance.valid) = false →
      result = .error (.rejected .publish ⟨structural.issues ++ governance.issues⟩)) := by
  intro store result
  have hmem := Store.mem_stored_of_at? hd
  have hnodup := (h.labelled_run s).nodup d hmem
  obtain ⟨n, hnumbered⟩ := s.exists_numbered hmem
  obtain ⟨fresh, hfresh, rfl, -⟩ := Supply.exists_fresh hnow
  rw [← s.folder_run ms] at hp
  have hdone := s.result_publish_eq_ok_iff h hd hp hnumbered party r supply hfresh
  rw [hnumbered.length_versions]
  refine ⟨⟨?_, ?_⟩, ?_, ?_⟩
  · rintro ⟨x, hx⟩
    obtain ⟨hread, hlimit, target, structural, governance, hjudged, hvalid, -⟩ := (hdone x).1 hx
    rw [Verdict.valid_merge, Bool.and_eq_true] at hvalid
    exact ⟨hread, hlimit, target, structural, governance, hjudged, hvalid⟩
  · rintro ⟨hread, hlimit, target, structural, governance, hjudged, hvalid⟩
    rw [← Bool.and_eq_true, ← Verdict.valid_merge] at hvalid
    exact ⟨_, (hdone _).2
      ⟨hread, hlimit, target, structural, governance, hjudged, hvalid, rfl⟩⟩
  · intro store' o ho
    obtain ⟨-, -, target, _, _, hjudged, -, heq⟩ := (hdone _).1 ho
    cases heq
    have ht : target ∈ d.versions := List.mem_of_find?_eq_some hjudged.meant
    refine ⟨target, _, _, _, _, hjudged.meant, hjudged.owned, Document.isPublication_publish hnodup
      ht (h.isName_of_version hmem ht).1 hnumbered.next_not_mem, rfl, ?_⟩
    rw [← Document.filter_isReplacedBy hnodup ht]
    rfl
  · intro target structural governance hread hjudged hvalid
    rw [← Verdict.valid_merge] at hvalid
    exact hjudged.result_of_invalid (Store.load_eq_some_iff.2 ⟨p, hp, hd, hread⟩) hvalid

namespace Sample

/-- What comes of it when the owner publishes the first version at once. -/
def publishing (snapshot : Fields) : Except Refusal (Store × Outcome) :=
  (service.carryOut (service.run (founding snapshot)).store owner (supply 2) (supply 3)
    (publish "1.0.0")).result

end Sample

theorem published_exactly_first :
    Drawn (Sample.founding Sample.snapshot) ∧
    ∃ d target draft audit d', d'.IsPublication d target draft audit "owner" "time-3" none ∧
      (Sample.service.run (Sample.founding Sample.snapshot)).store.at? Sample.first =
        some (.document d) ∧
      d.findVersion? none (some "1.0.0") = some target ∧
      (Sample.publishing Sample.snapshot).toOption.map (·.1) =
        some ((Sample.service.run (Sample.founding Sample.snapshot)).store.put Sample.first
          (.document d')) := by
  have hdrawn := Sample.drawn_founding Sample.snapshot
  have hheld : ∃ d ∈ (Sample.service.run (Sample.founding Sample.snapshot)).store.stored,
      (Sample.service.run (Sample.founding Sample.snapshot)).store.folder.placeOf d.definition.id =
        .ok Sample.first := by
    decide +kernel
  have hdone : (Sample.publishing Sample.snapshot).toOption.isSome = true := by decide +kernel
  obtain ⟨d, hd, hplace⟩ := hheld
  obtain ⟨p, hp, hat⟩ := (Service.neat_run _ _).mem_stored_iff.1 hd
  obtain rfl : p = Sample.first := Except.ok.inj (hp.symm.trans hplace)
  obtain ⟨x, hx⟩ := Option.isSome_iff_exists.1 hdone
  obtain ⟨-, hpublished, -⟩ := published_exactly Sample.service _ hdrawn Sample.first d hat
    "definition-0" (by decide +kernel) Sample.owner { versionCode := some "1.0.0" }
    (Sample.supply 2) (Sample.supply 3) "time-3" (by decide +kernel)
  obtain ⟨target, draft, audit, user, d', hmeant, howner, hpub, hstore, -⟩ :=
    hpublished x.1 x.2 (eq_ok_of_toOption hx)
  obtain rfl : "owner" = user := by simpa [Sample.owner] using howner
  exact ⟨hdrawn, d, target, draft, audit, d', hpub, hat, hmeant, by rw [hx, ← hstore]; rfl⟩

namespace Sample

/-- The workflow that may be published, with a trigger that is set up by deep lists. -/
def nestedTrigger : Fields :=
  snapshot.put "nodes" (.list [.object [("id", .text "start"), ("type", .text "manual-trigger"),
      ("name", .text "start"), ("config", .object [("deep", nested 200)])],
    node "data" "data-fetch", node "rule" "rule-eval", node "agent" "single-agent",
    node "gate" "risk-gate"])

/-- The workflow of the version is found valid for publishing. -/
def isSound (store : Store) (v : Version) : Bool :=
  (Workflow.ofFields v.snapshot).value?.any fun w =>
    (service.validate w .publish).toOption.any Verdict.valid &&
    (service.review store.directory w owner (some "definition-0") .publish).toOption.any
      Verdict.valid

end Sample

/-- A request may be judged and found valid, and yet be refused as the document cannot be read. -/
theorem unreadable_unpublished :
    let store := (Sample.service.run (Sample.founding Sample.nestedTrigger)).store
    ∃ d ∈ store.stored, ∃ target structural governance,
      Sample.service.Judges store Sample.owner "definition-0" { versionCode := some "1.0.0" } d
        target structural governance ∧
      structural.valid = true ∧ governance.valid = true ∧
      Sample.publishing Sample.nestedTrigger = .error (.unreadable Stored.unparsable) := by
  have hfound : ∃ d ∈ (Sample.service.run (Sample.founding Sample.nestedTrigger)).store.stored,
      ∃ v ∈ d.versions, Sample.owner = .user d.definition.ownerUserId ∧
        d.definition.status ≠ .archived ∧ d.findVersion? none (some "1.0.0") = some v ∧
        v.status ≠ .published ∧
        Sample.isSound (Sample.service.run (Sample.founding Sample.nestedTrigger)).store v = true := by
    decide +kernel
  obtain ⟨d, hd, v, -, howned, heditable, hmeant, hstatus, hsound⟩ := hfound
  obtain ⟨w, hw, hsound⟩ := (Option.any_eq_true _ _).1 hsound
  rw [Bool.and_eq_true] at hsound
  obtain ⟨structural, hstructural, hvalid⟩ := (Option.any_eq_true _ _).1 hsound.1
  obtain ⟨governance, hgovernance, hvalid'⟩ := (Option.any_eq_true _ _).1 hsound.2
  refine ⟨d, hd, v, structural, governance, ⟨howned, heditable, hmeant, hstatus, w, ?_, ?_, ?_⟩,
    hvalid, hvalid', by decide +kernel⟩
  · exact Checked.value?_eq_some_iff.1 hw
  · exact eq_ok_of_toOption hstructural
  · exact eq_ok_of_toOption hgovernance

end WorkflowRelease
