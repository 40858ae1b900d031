import WorkflowRelease.Proofs.Run.Apart

/-!
# Versions of a run

When no id is drawn twice, an id of a version means one version, in one place of one document, and
a publication touches the version with its id and those that were published. Main statements:
`labelled_run` and `publishedVersions_eq_map`.
-/

namespace WorkflowRelease

/-- The versions of all documents, without what publications set. -/
def Store.versions (s : Store) : List Version :=
  s.stored.flatMap fun d => d.versions.map Version.unmarked

/-- Versions have ids that have been drawn, and those of different versions are different. -/
structure Labelled (drawn : List String) (s : Store) : Prop where
  drawn : ∀ v ∈ s.versions, v.id ∈ drawn
  eq_of_id : ∀ v ∈ s.versions, ∀ v' ∈ s.versions, v.id = v'.id → v = v'
  nodup : ∀ d ∈ s.stored, (d.versions.map (·.id)).Nodup

theorem Store.mem_versions {s : Store} {d : Document} {v : Version} (hd : d ∈ s.stored)
    (hv : v ∈ d.versions) : v.unmarked ∈ s.versions :=
  List.mem_flatMap.2 ⟨d, hd, List.mem_map_of_mem hv⟩

theorem ids_unmarked (versions : List Version) :
    (versions.map Version.unmarked).map (·.id) = versions.map (·.id) := by
  rw [List.map_map]
  rfl

/-- The versions of a document that arises were those of a document, followed by one at most. -/
theorem Arises.versions_eq {w : Scene} {m : Move} {p : Place} {e : Document}
    (ha : Arises w m p e) :
    ∃ olds news, e.versions.map Version.unmarked = olds ++ news ∧
      (olds = [] ∨ ∃ d ∈ w.store.stored, olds = d.versions.map Version.unmarked) ∧
      (news = [] ∨ ∃ v, v.id ∈ m.ids ∧ news = [v]) := by
  cases ha with
  | founded act _ drawn _ _ =>
    obtain ⟨-, -, hid, -⟩ := Supply.fresh_eq_ok drawn
    refine ⟨[], _, rfl, .inl rfl, .inr ⟨_, ?_, rfl⟩⟩
    rw [act]
    show Fresh.versionId _ ∈ _
    rw [hid]
    exact List.mem_cons_self
  | @turned n supply plan _ d _ act _ _ _ _ held turns _ =>
    have hd := Store.mem_stored_of_at? held
    rcases turns.versions_eq with he | ⟨v, hid, he⟩
    · exact ⟨_, [], by rw [he, List.append_nil], .inr ⟨d, hd, rfl⟩, .inl rfl⟩
    · refine ⟨_, _, he, .inr ⟨d, hd, rfl⟩, .inr ⟨v, ?_, rfl⟩⟩
      rw [act, hid]
      exact List.mem_cons_self

namespace Labelled

variable {s : Service} {w : Scene} {m : Move} {drawn : List String}

theorem empty (f : Folder) : Labelled [] { folder := f } where
  drawn := by simp [Store.versions]
  eq_of_id := by simp [Store.versions]
  nodup := by simp

/-- All versions after a move were there before, but for one at most. -/
theorem exists_new (s : Service) (hn : w.store.Neat) (m : Move) :
    ∃ news, (news = [] ∨ ∃ v, v.id ∈ m.ids ∧ news = [v]) ∧
      ∀ v ∈ (s.step w m).store.versions, v ∈ w.store.versions ∨ v ∈ news := by
  rcases Service.arises_or_eq_of_step s hn m with hs | ⟨p, e, ha, hs⟩
  · exact ⟨[], .inl rfl, fun v hv => .inl (hs ▸ hv)⟩
  · obtain ⟨olds, news, he, holds, hnews⟩ := ha.versions_eq
    refine ⟨news, hnews, fun v hv => ?_⟩
    rw [hs] at hv
    obtain ⟨d, hd, hvd⟩ := List.mem_flatMap.1 hv
    rcases Store.mem_stored_put hd with hd | rfl
    · exact .inl (List.mem_flatMap.2 ⟨d, hd, hvd⟩)
    · rw [he, List.mem_append] at hvd
      rcases hvd with hv | hv
      · rcases holds with rfl | ⟨d, hd, rfl⟩
        · cases hv
        · exact .inl (List.mem_flatMap.2 ⟨d, hd, hv⟩)
      · exact .inr hv

theorem nodup_of_arises (h : Labelled drawn w.store) (hnew : ∀ x ∈ m.ids, x ∉ drawn) {p : Place}
    {e : Document} (ha : Arises w m p e) : (e.versions.map (·.id)).Nodup := by
  obtain ⟨olds, news, he, holds, hnews⟩ := ha.versions_eq
  rw [← ids_unmarked, he, List.map_append, List.nodup_append]
  refine ⟨?_, ?_, ?_⟩
  · rcases holds with rfl | ⟨d, hd, rfl⟩
    · exact List.nodup_nil
    · rw [ids_unmarked]
      exact h.nodup d hd
  · rcases hnews with rfl | ⟨v, -, rfl⟩
    · exact List.nodup_nil
    · exact List.pairwise_singleton _ _
  · intro x hx y hy hxy
    rcases holds with rfl | ⟨d, hd, rfl⟩
    · cases hx
    · obtain ⟨v, hv, rfl⟩ := List.mem_map.1 hx
      rcases hnews with rfl | ⟨v', hv', rfl⟩
      · cases hy
      · obtain rfl := List.mem_singleton.1 hy
        have hid : v.id = v'.id := hxy
        exact hnew _ hv' (hid ▸ h.drawn v (List.mem_flatMap.2 ⟨d, hd, hv⟩))

theorem step (hn : w.store.Neat) (h : Labelled drawn w.store) (hnew : ∀ x ∈ m.ids, x ∉ drawn) :
    Labelled (drawn ++ m.ids) (s.step w m).store where
  drawn v hv := by
    rw [List.mem_append]
    obtain ⟨news, hnews, hall⟩ := exists_new s hn m
    rcases hall v hv with hv | hv
    · exact .inl (h.drawn v hv)
    · rcases hnews with rfl | ⟨v', hv', rfl⟩
      · cases hv
      · exact .inr (List.mem_singleton.1 hv ▸ hv')
  eq_of_id v hv v' hv' hid := by
    obtain ⟨news, hnews, hall⟩ := exists_new s hn m
    rcases hnews with rfl | ⟨new, hm, rfl⟩
    · have hold := fun v hv => (hall v hv).resolve_right List.not_mem_nil
      exact h.eq_of_id v (hold v hv) v' (hold v' hv') hid
    · rcases hall v hv with hv | hv
      · rcases hall v' hv' with hv' | hv'
        · exact h.eq_of_id v hv v' hv' hid
        · rw [List.mem_singleton.1 hv'] at hid
          exact absurd (hid ▸ h.drawn v hv) (hnew _ hm)
      · rcases hall v' hv' with hv' | hv'
        · rw [List.mem_singleton.1 hv] at hid
          exact absurd (hid ▸ h.drawn v' hv') (hnew _ hm)
        · rw [List.mem_singleton.1 hv, List.mem_singleton.1 hv']
  nodup d hd := by
    rcases Service.arises_of_mem hn hd with hd | ⟨p, ha⟩
    · exact h.nodup d hd
    · exact h.nodup_of_arises hnew ha

end Labelled

/-- **Versions of a run** are labelled by their ids. -/
theorem Drawn.labelled_run {ms : List Move} (h : Drawn ms) (s : Service) :
    Labelled (ms.flatMap Move.ids) (s.run ms).store := by
  induction ms using List.reverseRecOn with
  | nil => exact .empty s.folder
  | append_singleton ms m ih =>
    rw [Service.run_concat, List.flatMap_append, List.flatMap_singleton]
    exact (ih h.of_append).step (s.neat_run ms) fun x hx => not_mem_of_nodup h.nodup hx

theorem Drawn.isName_of_version {ms : List Move} (h : Drawn ms) {s : Service} {d : Document}
    (hd : d ∈ (s.run ms).store.stored) {v : Version} (hv : v ∈ d.versions) : IsName v.id :=
  h.names _ ((h.labelled_run s).drawn v.unmarked (Store.mem_versions hd hv))

/-! ## Publication -/

theorem ids_publish (d : Document) (o : PublishOutcome) (user now : String) :
    (d.publish o user now).versions.map (·.id) = d.versions.map (·.id) ++ [o.draft.id] := by
  rw [← ids_unmarked, Document.versions_publish, List.map_append, unmarked_publishedVersions,
    List.map_append, ids_unmarked]
  rfl

/-- The version when the one with an id is published. -/
def Version.atPublication (id user now : String) (v : Version) : Version :=
  if v.id = id then v.markPublished user now
  else if v.status = .published then v.archive
  else v

theorem Version.id_atPublication (id user now : String) (v : Version) :
    (v.atPublication id user now).id = v.id := by
  unfold atPublication
  split
  · rfl
  · split <;> rfl

theorem Version.status_atPublication (id user now : String) (v : Version) :
    (v.atPublication id user now).status =
      if v.id = id then .published
      else if v.status = .published then .archived
      else v.status := by
  unfold atPublication
  split
  · rfl
  · split <;> rfl

theorem Version.isMeant_some {id : String} (hid : id ≠ "") (v : Version) :
    v.isMeant (some id) none = decide (v.id = id) := by
  simp [isMeant, given?, Option.filter, hid]

theorem Document.findVersion?_id {d : Document} {id : String} (hid : id ≠ "") {v : Version}
    (h : d.findVersion? (some id) none = some v) : v ∈ d.versions ∧ v.id = id := by
  have hmeant := List.find?_some h
  rw [Version.isMeant_some hid, decide_eq_true_eq] at hmeant
  exact ⟨List.mem_of_find?_eq_some h, hmeant⟩

theorem Document.publishedVersions_eq_map {id : String} (hid : id ≠ "") (user now : String)
    {versions : List Version} (h : (versions.map (·.id)).Nodup) :
    publishedVersions id user now versions = versions.map (·.atPublication id user now) := by
  unfold publishedVersions
  induction versions with
  | nil => rfl
  | cons v versions ih =>
    rw [List.map_cons, List.nodup_cons] at h
    obtain ⟨hv, hversions⟩ := h
    rw [List.map_cons, List.map_cons, modifyFirst, Version.isMeant_some hid]
    by_cases heq : v.id = id
    · -- the ids behind are others
      have hrest : versions.map (fun v => if v.isReplacedBy id then v.archive else v) =
          versions.map (·.atPublication id user now) := by
        apply List.map_congr_left
        intro v' hv'
        have hne : v'.id ≠ id := by
          rintro rfl
          exact hv (heq ▸ List.mem_map_of_mem hv')
        simp [Version.isReplacedBy, Version.atPublication, hne]
      rw [hrest]
      simp [Version.isReplacedBy, Version.atPublication, heq]
    · rw [ih hversions]
      by_cases hp : v.status = .published
      · simp [Version.isReplacedBy, Version.atPublication, Version.archive, heq, hp]
      · simp [Version.isReplacedBy, Version.atPublication, heq, hp]

end WorkflowRelease
