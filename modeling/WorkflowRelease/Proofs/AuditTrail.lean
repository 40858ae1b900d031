import Mathlib.Data.List.Chain
import Mathlib.Data.List.Nodup
import WorkflowRelease.Proofs.Run.Versions

/-!
# The audit trail

The audits of a document tell all that publications have done to it: the last one names the version
that is published, those before it the versions that are archived, and each one the version that
it has replaced. Main statement: `told_by_audits`, for every document of every run.
-/

namespace WorkflowRelease

/-- Where the version of an id stands after some publications. -/
def standingAfter (audits : List Audit) (id : String) : VersionStatus :=
  if audits.getLast?.map (·.versionId) = some id then .published
  else if audits.any (·.versionId = id) then .archived
  else .draft

/-- The versions and the definition of a document stand where its audits say. -/
structure Document.ToldByAudits (d : Document) : Prop where
  published : ∀ v ∈ d.versions,
    v.status = .published ↔ d.audits.getLast?.map (·.versionId) = some v.id
  archived : ∀ v ∈ d.versions,
    v.status = .archived ↔ (∃ a ∈ d.audits, a.versionId = v.id) ∧
      d.audits.getLast?.map (·.versionId) ≠ some v.id
  draft : ∀ v ∈ d.versions, v.status = .draft ↔ ∀ a ∈ d.audits, a.versionId ≠ v.id
  /-- No version is published without an audit, and just one from the first audit on. -/
  publishedIds : (d.versions.filter (·.status = .published)).map (·.id) =
    (d.audits.getLast?.map (·.versionId)).toList
  first : ∀ a ∈ d.audits.head?, a.archivedVersionIds = []
  next : d.audits.IsChain fun a b =>
    b.archivedVersionIds = [a.versionId] ∧ b.versionId ≠ a.versionId
  isActive : d.definition.isActive = true ↔ d.definition.status = .active
  unaudited : d.audits = [] → d.definition.status = .draft ∨ d.definition.status = .archived
  audited : d.audits ≠ [] → d.definition.status = .active ∨ d.definition.status = .archived

/-! ## Standings -/

theorem standingAfter_eq_published_iff {audits : List Audit} {id : String} :
    standingAfter audits id = .published ↔ audits.getLast?.map (·.versionId) = some id := by
  unfold standingAfter
  split
  · simp_all
  · split <;> simp_all

theorem standingAfter_eq_draft_iff {audits : List Audit} {id : String} :
    standingAfter audits id = .draft ↔ ∀ a ∈ audits, a.versionId ≠ id := by
  unfold standingAfter
  split
  · rename_i hlast
    obtain ⟨a, ha, hid⟩ := Option.map_eq_some_iff.1 hlast
    constructor
    · intro h
      cases h
    · intro h
      exact absurd hid (h a (List.mem_of_getLast? ha))
  · split <;> simp_all

theorem standingAfter_eq_archived_iff {audits : List Audit} {id : String} :
    standingAfter audits id = .archived ↔ (∃ a ∈ audits, a.versionId = id) ∧
      audits.getLast?.map (·.versionId) ≠ some id := by
  unfold standingAfter
  split
  · simp_all
  · split <;> simp_all

/-- One more publication publishes the version of its id, and archives the one before. -/
theorem standingAfter_concat (audits : List Audit) (a : Audit) (id : String) :
    standingAfter (audits ++ [a]) id =
      if id = a.versionId then .published
      else if standingAfter audits id = .published then .archived
      else standingAfter audits id := by
  split
  · rename_i h
    rw [standingAfter_eq_published_iff, List.getLast?_concat, h]
    rfl
  · rename_i hne
    have hlast : (audits ++ [a]).getLast?.map (·.versionId) ≠ some id := by
      rw [List.getLast?_concat]
      simpa using Ne.symm hne
    split
    · rename_i hp
      rw [standingAfter_eq_published_iff] at hp
      obtain ⟨b, hb, hid⟩ := Option.map_eq_some_iff.1 hp
      rw [standingAfter_eq_archived_iff]
      exact ⟨⟨b, List.mem_append_left _ (List.mem_of_getLast? hb), hid⟩, hlast⟩
    · rename_i hp
      rw [standingAfter_eq_published_iff] at hp
      unfold standingAfter
      rw [if_neg hlast, if_neg hp, List.any_append]
      simp [Ne.symm hne]

/-! ## Documents -/

/-- The invariant of documents that `ToldByAudits` follows from. -/
structure Document.Trailed (d : Document) : Prop where
  status : ∀ v ∈ d.versions, v.status = standingAfter d.audits v.id
  known : ∀ a ∈ d.audits, a.versionId ∈ d.versions.map (·.id)
  first : ∀ a ∈ d.audits.head?, a.archivedVersionIds = []
  next : d.audits.IsChain fun a b =>
    b.archivedVersionIds = [a.versionId] ∧ b.versionId ≠ a.versionId
  isActive : d.definition.isActive = true ↔ d.definition.status = .active
  standing : d.definition.status ≠ .archived → (d.definition.status = .active ↔ d.audits ≠ [])

theorem filter_id_eq {versions : List Version} {id : String}
    (hn : (versions.map (·.id)).Nodup) (hid : id ∈ versions.map (·.id)) :
    (versions.filter (·.id = id)).map (·.id) = [id] := by
  have hfilter : (versions.filter (·.id = id)).map (·.id) =
      (versions.map (·.id)).filter (· = id) := by
    rw [List.filter_map]
    rfl
  rw [hfilter, List.filter_eq, List.count_eq_one_of_mem hn hid]
  rfl

namespace Document.Trailed

variable {d : Document}

theorem publishedIds (h : d.Trailed) (hn : (d.versions.map (·.id)).Nodup) :
    (d.versions.filter (·.status = .published)).map (·.id) =
      (d.audits.getLast?.map (·.versionId)).toList := by
  have hfilter : d.versions.filter (·.status = .published) =
      d.versions.filter fun v => d.audits.getLast?.map (·.versionId) = some v.id := by
    apply List.filter_congr
    intro v hv
    rw [h.status v hv, decide_eq_decide]
    exact standingAfter_eq_published_iff
  rw [hfilter]
  cases ha : d.audits.getLast? with
  | none => simp
  | some a =>
    have hid := h.known a (List.mem_of_getLast? ha)
    simpa [eq_comm] using filter_id_eq hn hid

theorem toldByAudits (h : d.Trailed) (hn : (d.versions.map (·.id)).Nodup) : d.ToldByAudits where
  published v hv := by rw [h.status v hv, standingAfter_eq_published_iff]
  archived v hv := by rw [h.status v hv, standingAfter_eq_archived_iff]
  draft v hv := by rw [h.status v hv, standingAfter_eq_draft_iff]
  publishedIds := h.publishedIds hn
  first := h.first
  next := h.next
  isActive := h.isActive
  unaudited ha := by
    have hstanding := h.standing
    cases hs : d.definition.status with
    | draft => exact .inl rfl
    | active => simp [hs, ha] at hstanding
    | archived => exact .inr rfl
  audited ha := by
    have hstanding := h.standing
    cases hs : d.definition.status with
    | draft => simp [hs, ha] at hstanding
    | active => exact .inl rfl
    | archived => exact .inr rfl

theorem standingAfter_of_new (h : d.Trailed) {id : String} (hid : id ∉ d.versions.map (·.id)) :
    standingAfter d.audits id = .draft := by
  rw [standingAfter_eq_draft_iff]
  rintro a ha rfl
  exact hid (h.known a ha)

theorem ofFirst (definition : Definition) (v : Version) (hstatus : definition.status = .draft)
    (hactive : definition.isActive = false) (hv : v.status = .draft) :
    (Document.first definition v).Trailed where
  status v' hv' := by
    rw [List.mem_singleton.1 hv', hv]
    rfl
  known := by simp [Document.first]
  first := by simp [Document.first]
  next := List.IsChain.nil
  isActive := by simp [Document.first, hstatus, hactive]
  standing := by simp [Document.first, hstatus]

theorem addDraft (h : d.Trailed) {v : Version} (hv : v.status = .draft)
    (hnew : v.id ∉ d.versions.map (·.id)) (now : String) : (d.addDraft v now).Trailed where
  status v' hv' := by
    rcases List.mem_append.1 hv' with hv' | hv'
    · exact h.status v' hv'
    · rw [List.mem_singleton.1 hv', hv]
      exact (h.standingAfter_of_new hnew).symm
  known a ha := by
    show _ ∈ (d.versions ++ [v]).map (·.id)
    rw [List.map_append]
    exact List.mem_append_left _ (h.known a ha)
  first := h.first
  next := h.next
  isActive := h.isActive
  standing := h.standing

theorem edit (h : d.Trailed) (r : UpdateRequest) (now : String) : (d.edit r now).Trailed where
  status := h.status
  known := h.known
  first := h.first
  next := h.next
  isActive := h.isActive
  standing := h.standing

theorem retire (h : d.Trailed) (now : String) : (d.retire now).Trailed := by
  unfold Document.retire
  split
  · exact h
  · exact ⟨h.status, h.known, h.first, h.next, by simp, by simp⟩

/-! ### Publishing -/

/-- A publication archives the version that is published so far. -/
theorem archivedVersionIds_eq (h : d.Trailed) (hn : (d.versions.map (·.id)).Nodup)
    {target : Version} (ht : target ∈ d.versions) (hp : target.status ≠ .published)
    (code : VersionCode) (comment : Option String) (id user : String) (fresh : Fresh) :
    (d.outcome target code comment id user fresh).audit.archivedVersionIds =
      (d.audits.getLast?.map (·.versionId)).toList := by
  rw [← h.publishedIds hn]
  show ((d.versions.filter (·.isReplacedBy target.id)).map (·.archive)).map (·.id) = _
  rw [List.map_map]
  have hfilter : d.versions.filter (·.isReplacedBy target.id) =
      d.versions.filter (·.status = .published) := by
    apply List.filter_congr
    intro v hv
    have hne : v.status = .published → v.id ≠ target.id := by
      intro hs hid
      rw [h.status v hv, hid, ← h.status target ht] at hs
      exact hp hs
    by_cases hs : v.status = .published
    · simp [Version.isReplacedBy, hs, hne hs]
    · simp [Version.isReplacedBy, hs]
  rw [hfilter]
  rfl

theorem status_publishedVersions (h : d.Trailed) (hn : (d.versions.map (·.id)).Nodup)
    {a : Audit} (hne : a.versionId ≠ "") {user now : String} {v : Version}
    (hv : v ∈ Document.publishedVersions a.versionId user now d.versions) :
    v.status = standingAfter (d.audits ++ [a]) v.id := by
  rw [Document.publishedVersions_eq_map hne user now hn] at hv
  obtain ⟨v, hmem, rfl⟩ := List.mem_map.1 hv
  rw [Version.status_atPublication, Version.id_atPublication, standingAfter_concat,
    h.status v hmem]

theorem known_concat (h : d.Trailed) {a : Audit} (ha : a.versionId ∈ d.versions.map (·.id)) :
    ∀ b ∈ d.audits ++ [a], b.versionId ∈ d.versions.map (·.id) := by
  intro b hb
  rcases List.mem_append.1 hb with hb | hb
  · exact h.known b hb
  · rw [List.mem_singleton.1 hb]
    exact ha

/-- A publication keeps a document trailed, if the id for its new draft is new. -/
theorem publish (h : d.Trailed) (hn : (d.versions.map (·.id)).Nodup) {target : Version}
    (hne : target.id ≠ "") (ht : target ∈ d.versions) (hp : target.status ≠ .published)
    {fresh : Fresh} (hnew : fresh.versionId ∉ d.versions.map (·.id)) (code : VersionCode)
    (comment : Option String) (id user now : String) :
    (d.publish (d.outcome target code comment id user fresh) user now).Trailed where
  status v hv := by
    rcases List.mem_append.1 hv with hv | hv
    · exact h.status_publishedVersions hn hne hv
    · rw [List.mem_singleton.1 hv]
      symm
      apply standingAfter_eq_draft_iff.2
      intro a ha hid
      have hknown := h.known_concat (List.mem_map_of_mem ht) a ha
      rw [hid] at hknown
      exact hnew hknown
  known a ha := by
    rw [ids_publish]
    exact List.mem_append_left _ (h.known_concat (List.mem_map_of_mem ht) a ha)
  first a ha := by
    have harchived := h.archivedVersionIds_eq hn ht hp code comment id user fresh
    cases hd : d.audits with
    | nil =>
      have hlast : a = (d.outcome target code comment id user fresh).audit := by
        simpa [Document.publish, hd, eq_comm] using ha
      rw [hlast, harchived, hd]
      rfl
    | cons b rest =>
      apply h.first
      simpa [Document.publish, hd] using ha
  next := by
    have harchived := h.archivedVersionIds_eq hn ht hp code comment id user fresh
    refine h.next.append (List.isChain_singleton _) ?_
    intro a ha b hb
    have hb' : b = (d.outcome target code comment id user fresh).audit := by
      simpa [eq_comm] using hb
    have hlast : d.audits.getLast? = some a := ha
    rw [hb', harchived, hlast]
    refine ⟨rfl, fun hid => hp ?_⟩
    rw [h.status target ht, standingAfter_eq_published_iff, hlast]
    exact congrArg some hid.symm
  isActive := by simp [Document.publish]
  standing := by simp [Document.publish]

end Document.Trailed

/-! ## Runs -/

/-- A turn keeps a document trailed, if the id for its new version is new. -/
theorem Turns.trailed {party : Party} {supply : Supply} {c : Change} {d d' : Document}
    (ht : Turns party supply c d d') (h : d.Trailed) (hn : (d.versions.map (·.id)).Nodup)
    (hnames : ∀ v ∈ d.versions, v.id ≠ "") (hnew : supply.versionId ∉ d.versions.map (·.id)) :
    d'.Trailed := by
  cases ht with
  | @save _ _ _ _ fresh _ _ _ _ drawn _ _ =>
    obtain ⟨-, -, hid, -⟩ := Supply.fresh_eq_ok drawn
    have hfresh : fresh.versionId ∉ d.versions.map (·.id) := hid ▸ hnew
    exact h.addDraft rfl hfresh _
  | @publish _ _ _ _ _ target fresh _ _ _ meant unpublished _ drawn _ =>
    obtain ⟨-, -, hid, -⟩ := Supply.fresh_eq_ok drawn
    have hmem := List.mem_of_find?_eq_some meant
    exact h.publish hn (hnames target hmem) hmem unpublished (hid ▸ hnew) _ _ _ _ _
  | update _ _ _ => exact h.edit _ _
  | remove _ _ _ => exact h.retire _
  | removed _ _ => exact h

theorem Drawn.trailed_run {ms : List Move} (h : Drawn ms) (s : Service) :
    ∀ d ∈ (s.run ms).store.stored, d.Trailed := by
  induction ms using List.reverseRecOn with
  | nil => simp
  | append_singleton ms m ih =>
    intro e he
    have hms := h.of_append
    rw [Service.run_concat] at he
    rcases Service.arises_of_mem (s.neat_run ms) he with he | ⟨p, ha⟩
    · exact ih hms e he
    · cases ha with
      | @founded n supply f snapshot changelog fresh _ waits _ _ _ =>
        obtain ⟨hstatus, hactive⟩ := s.draft_of_founding waits
        exact .ofFirst f _ hstatus hactive rfl
      | @turned n supply plan _ d _ act _ _ _ _ held turns _ =>
        have hd := Store.mem_stored_of_at? held
        have hlabelled := hms.labelled_run s
        refine turns.trailed (ih hms d hd) (hlabelled.nodup d hd) ?_ ?_
        · intro v hv
          exact (hms.isName_of_version hd hv).1
        · intro hmem
          obtain ⟨v, hv, hid⟩ := List.mem_map.1 hmem
          have hdraws : supply.versionId ∈ m.ids := act ▸ List.mem_cons_self
          exact not_mem_of_nodup h.nodup hdraws
            (hid ▸ hlabelled.drawn v.unmarked (Store.mem_versions hd hv))

/-- **The audits tell.** In every run in which no id is drawn twice, each stored document stands
where its audits say. -/
theorem told_by_audits (s : Service) (ms : List Move) (h : Drawn ms) (d : Document)
    (hd : d ∈ (s.run ms).store.stored) : d.ToldByAudits :=
  (h.trailed_run s d hd).toldByAudits ((h.labelled_run s).nodup d hd)

theorem told_by_audits_of_two :
    Drawn Sample.moves ∧
    ∃ d ∈ (Sample.service.run Sample.moves).store.stored,
      d.audits.map (·.versionId) = ["version-1", "version-4"] ∧ d.ToldByAudits := by
  have htwo : ∃ d ∈ (Sample.service.run Sample.moves).store.stored,
      d.audits.map (·.versionId) = ["version-1", "version-4"] := by
    decide +kernel
  obtain ⟨d, hd, hids⟩ := htwo
  exact ⟨Sample.drawn_moves, d, hd, hids,
    told_by_audits Sample.service Sample.moves Sample.drawn_moves d hd⟩

end WorkflowRelease
