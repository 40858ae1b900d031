import WorkflowRelease.Proofs.Run.Versions

/-!
# Vetting

No version is published unless its own snapshot has been validated for publication. The snapshot is
validated at the look and published at the act, so it has to be the same one: the id of a version
leads to it in whatever document it is found. Main statement: `vetted_of_published`.
-/

namespace WorkflowRelease

/-- The snapshot of a version is a workflow that the service finds fit for publication. -/
def Version.IsVetted (s : Service) (v : Version) : Prop :=
  ∃ w verdict, Workflow.ofFields v.snapshot = .valid w ∧ s.validate w .publish = .ok verdict ∧
    verdict.valid = true

/-- All versions with an id, wherever they are stored, are vetted. -/
def Store.Vets (s : Service) (store : Store) (versionId : String) : Prop :=
  ∀ v ∈ store.versions, v.id = versionId → v.IsVetted s

/-- The plan is to publish the version with an id, and was found valid. -/
def Plan.Publishes (p : Plan) (versionId : String) : Prop :=
  (∃ id seenAt comment, p.change = .publish id versionId seenAt comment) ∧
    ∀ f, p.finding = some f → f.verdict.valid = true

/-- Published and archived versions are vetted, and so are those that are to be published. -/
structure Vetted (s : Service) (drawn : List String) (w : Scene) : Prop where
  stored : ∀ d ∈ w.store.stored, ∀ v ∈ d.versions, v.status ≠ .draft → v.IsVetted s
  waiting : ∀ n p versionId, w.waiting n = some p → p.Publishes versionId →
    versionId ∈ drawn ∧ w.store.Vets s versionId

theorem Version.snapshot_atPublication (id user now : String) (v : Version) :
    (v.atPublication id user now).snapshot = v.snapshot := by
  unfold atPublication
  split
  · rfl
  · split <;> rfl

/-- A turn publishes nothing but what the change is to publish. -/
theorem Turns.isVetted {s : Service} {party : Party} {supply : Supply} {c : Change}
    {d d' : Document} (ht : Turns party supply c d d') (hn : (d.versions.map (·.id)).Nodup)
    (h : ∀ v ∈ d.versions, v.status ≠ .draft → v.IsVetted s)
    (hc : ∀ id versionId seenAt comment, c = .publish id versionId seenAt comment →
      versionId ≠ "" ∧ ∀ v ∈ d.versions, v.id = versionId → v.IsVetted s) :
    ∀ v ∈ d'.versions, v.status ≠ .draft → v.IsVetted s := by
  intro v' hv' hs
  cases ht with
  | save _ _ _ _ _ =>
    rcases List.mem_append.1 hv' with hv' | hv'
    · exact h v' hv' hs
    · rw [List.mem_singleton.1 hv'] at hs
      exact absurd rfl hs
  | @publish id versionId seenAt comment _ target fresh code _ _ meant _ _ _ _ =>
    obtain ⟨hne, hvets⟩ := hc id versionId seenAt comment rfl
    obtain ⟨htarget, rfl⟩ := Document.findVersion?_id hne meant
    rcases List.mem_append.1 hv' with hv' | hv'
    · have hmap : v' ∈ Document.publishedVersions target.id _ _ d.versions := hv'
      rw [Document.publishedVersions_eq_map hne _ _ hn] at hmap
      obtain ⟨v, hv, rfl⟩ := List.mem_map.1 hmap
      have hvetted : v.IsVetted s := by
        by_cases hid : v.id = target.id
        · exact hvets v hv hid
        · apply h v hv
          intro hdraft
          rw [Version.status_atPublication, if_neg hid, hdraft] at hs
          exact hs rfl
      unfold Version.IsVetted
      rw [Version.snapshot_atPublication]
      exact hvetted
    · rw [List.mem_singleton.1 hv'] at hs
      exact absurd rfl hs
  | update _ _ _ => exact h v' hv' hs
  | remove _ editable _ =>
    rw [Document.retire, if_neg editable] at hv'
    exact h v' hv' hs
  | removed _ _ => exact h v' hv' hs

/-- A plan that is found valid publishes a stored version whose snapshot is valid. -/
theorem Planned.publishes {s : Service} {store : Store} {directory : Directory Unread}
    {party : Party} {supply : Supply} {command : Command} {p : Plan} {versionId : String}
    (hp : Planned s store directory party supply command p) (h : p.Publishes versionId) :
    ∃ d ∈ store.stored, ∃ v ∈ d.versions, v.id = versionId ∧ v.IsVetted s := by
  obtain ⟨⟨id, seenAt, comment, hc⟩, hvalid⟩ := h
  cases hp with
  | create => cases hc
  | save => cases hc
  | @publish _ r d target w f loaded _ _ meant _ snapshot examined =>
    cases hc
    have hf := hvalid f rfl
    cases examined with
    | @merged structural governance validated _ =>
      rw [Verdict.valid_merge, Bool.and_eq_true] at hf
      exact ⟨d, Store.mem_stored_of_load loaded, target, List.mem_of_find?_eq_some meant, rfl,
        w, structural, snapshot, validated, hf.1⟩
  | update => cases hc
  | remove => cases hc

namespace Vetted

variable {s : Service} {ms : List Move} {m : Move}

theorem waiting_step (h : Drawn (ms ++ [m])) (hv : Vetted s (ms.flatMap Move.ids) (s.run ms))
    {n : Nat} {p : Plan} {versionId : String} (hp : (s.step (s.run ms) m).waiting n = some p)
    (hpub : p.Publishes versionId) :
    versionId ∈ ms.flatMap Move.ids ∧ (s.step (s.run ms) m).store.Vets s versionId := by
  have hlabelled := h.of_append.labelled_run s
  rcases Service.waiting_step hp with ⟨hw, -⟩ | ⟨party, command, supply, directory, rfl, -, hr⟩
  · obtain ⟨hmem, hvets⟩ := hv.waiting n p versionId hw hpub
    refine ⟨hmem, fun v hv hid => ?_⟩
    obtain ⟨news, hnews, hall⟩ := Labelled.exists_new s (s.neat_run ms) m
    rcases hall v hv with hv | hv
    · exact hvets v hv hid
    · rcases hnews with rfl | ⟨v', hv', rfl⟩
      · cases hv
      · -- a new version has a new id
        rw [List.mem_singleton.1 hv] at hid
        exact absurd (hid ▸ hmem) (not_mem_of_nodup h.nodup hv')
  · obtain ⟨d, hd, v, hvd, rfl, hvetted⟩ := (Service.planned_of_planAsking hr).publishes hpub
    have hmem := Store.mem_versions hd hvd
    refine ⟨hlabelled.drawn v.unmarked hmem, fun v' hv' hid => ?_⟩
    rw [hlabelled.eq_of_id v' hv' v.unmarked hmem hid]
    exact hvetted

theorem stored_step (h : Drawn (ms ++ [m])) (hv : Vetted s (ms.flatMap Move.ids) (s.run ms))
    {e : Document} (he : e ∈ (s.step (s.run ms) m).store.stored) :
    ∀ v ∈ e.versions, v.status ≠ .draft → v.IsVetted s := by
  have hms := h.of_append
  rcases Service.arises_of_mem (s.neat_run ms) he with he | ⟨p, ha⟩
  · exact hv.stored e he
  · cases ha with
    | founded _ _ _ _ _ =>
      intro v hmem hs
      rw [List.mem_singleton.1 hmem] at hs
      exact absurd rfl hs
    | @turned n supply plan _ d _ act waits accepted _ _ held turns _ =>
      have hd := Store.mem_stored_of_at? held
      refine turns.isVetted ((hms.labelled_run s).nodup d hd) (hv.stored d hd) ?_
      intro id versionId seenAt comment hc
      obtain ⟨hmem, hvets⟩ :=
        hv.waiting n plan versionId waits ⟨⟨id, seenAt, comment, hc⟩, accepted⟩
      refine ⟨(hms.names _ hmem).1, fun v hvd hid => ?_⟩
      exact hvets v.unmarked (Store.mem_versions hd hvd) hid

end Vetted

theorem Drawn.vetted_run {ms : List Move} (h : Drawn ms) (s : Service) :
    Vetted s (ms.flatMap Move.ids) (s.run ms) := by
  induction ms using List.reverseRecOn with
  | nil =>
    refine ⟨by simp, ?_⟩
    intro n p versionId hp
    cases hp
  | append_singleton ms m ih =>
    have hv := ih h.of_append
    rw [Service.run_concat, List.flatMap_append]
    refine ⟨fun e he => hv.stored_step h he, ?_⟩
    intro n p versionId hp hpub
    obtain ⟨hmem, hvets⟩ := hv.waiting_step h hp hpub
    exact ⟨List.mem_append_left _ hmem, hvets⟩

/-- **Published versions are vetted.** In every run in which no id is drawn twice, the snapshot of
each version that is or was published is a workflow, and the service finds it fit for
publication. -/
theorem vetted_of_published (s : Service) (ms : List Move) (h : Drawn ms) (d : Document)
    (hd : d ∈ (s.run ms).store.stored) (v : Version) (hv : v ∈ d.versions)
    (hs : v.status = .published ∨ v.status = .archived) :
    ∃ w verdict, Workflow.ofFields v.snapshot = .valid w ∧ s.validate w .publish = .ok verdict ∧
      verdict.valid = true := by
  refine (h.vetted_run s).stored d hd v hv ?_
  intro hdraft
  rcases hs with hs | hs
  · rw [hdraft] at hs
    cases hs
  · rw [hdraft] at hs
    cases hs

theorem vetted_of_published_archived :
    Drawn Sample.moves ∧
    ∃ d ∈ (Sample.service.run Sample.moves).store.stored, ∃ v ∈ d.versions,
      v.status = .archived ∧ ∃ w verdict, Workflow.ofFields v.snapshot = .valid w ∧
        Sample.service.validate w .publish = .ok verdict ∧ verdict.valid = true := by
  have harchived : ∃ d ∈ (Sample.service.run Sample.moves).store.stored, ∃ v ∈ d.versions,
      v.status = .archived := by
    decide +kernel
  obtain ⟨d, hd, v, hv, hs⟩ := harchived
  exact ⟨Sample.drawn_moves, d, hd, v, hv, hs,
    vetted_of_published Sample.service Sample.moves Sample.drawn_moves d hd v hv (.inr hs)⟩

end WorkflowRelease
