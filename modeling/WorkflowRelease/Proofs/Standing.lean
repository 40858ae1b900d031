import WorkflowRelease.Proofs.AuditTrail
import WorkflowRelease.Proofs.History

/-!
# Standings over time

Versions are meant to go from draft to published to archived, and never back. They never become
drafts again, but an archived version may be published once more: publishing refuses only a version
that is published. Main statement: `forward_unless_republished`, the standing of a version goes back
iff it was archived and the last publication since is one of it. `republished_sample` is a run in
which that happens.
-/

namespace WorkflowRelease

/-- How far a version has come. -/
def VersionStatus.rank : VersionStatus → Nat
  | draft => 0
  | published => 1
  | archived => 2

theorem VersionStatus.rank_le_iff {a b : VersionStatus} :
    a.rank ≤ b.rank ↔ (b = .draft → a = .draft) ∧ (a = .archived → b = .archived) := by
  cases a <;> cases b <;> simp [rank]

/-- A version with audits does not become a draft by more of them. -/
theorem draft_of_standingAfter_append {audits news : List Audit} {id : String}
    (h : standingAfter (audits ++ news) id = .draft) : standingAfter audits id = .draft := by
  rw [standingAfter_eq_draft_iff] at h ⊢
  exact fun a ha => h a (List.mem_append_left _ ha)

/-- An archived version stays so unless it is the last that is published since. -/
theorem archived_of_standingAfter_append {audits news : List Audit} {id : String}
    (h : standingAfter audits id = .archived) :
    standingAfter (audits ++ news) id = .archived ↔
      news.getLast?.map (·.versionId) ≠ some id := by
  cases hn : news.getLast? with
  | none =>
    obtain rfl : news = [] := by simpa using hn
    simpa using h
  | some b =>
    rw [standingAfter_eq_archived_iff] at h ⊢
    obtain ⟨⟨a, ha, hid⟩, -⟩ := h
    rw [List.getLast?_append, hn]
    exact and_iff_right ⟨a, List.mem_append_left _ ha, hid⟩

/-- **Standings only go forward**, but for archived versions that are published again. -/
theorem rank_standingAfter_append_le_iff {audits news : List Audit} {id : String} :
    (standingAfter audits id).rank ≤ (standingAfter (audits ++ news) id).rank ↔
      ¬(standingAfter audits id = .archived ∧ news.getLast?.map (·.versionId) = some id) := by
  rw [VersionStatus.rank_le_iff, and_iff_right draft_of_standingAfter_append, not_and]
  exact forall_congr' archived_of_standingAfter_append

/-- A version stays, up to what publications set. -/
theorem Document.Extends.exists_version {d d' : Document} (h : d'.Extends d) {v : Version}
    (hv : v ∈ d.versions) : ∃ v' ∈ d'.versions, v'.unmarked = v.unmarked :=
  List.mem_map.1 (h.versions.subset (List.mem_map_of_mem hv))

/-- The audits of a document in an orderly schedule account for its versions. -/
theorem Action.Drawn.trailed {s : Service} {as : List Action} (h : Action.Drawn as)
    (ho : s.IsOrderly as) {d : Document} (hd : d ∈ (s.situation as).store.stored) : d.Trailed := by
  rw [← Service.store_serial ho] at hd
  exact (h.serial s).trailed_run s d hd

/-- **Versions only move forward unless they are published again.** In every schedule in which no id
is drawn twice and no two units of work for one place overlap, whatever is done next: each version
of a document is still there, and has not become a draft again. Its standing goes back iff it was
archived and the last publication since is one of it. -/
theorem forward_unless_republished (s : Service) (as as' : List Action)
    (h : Action.Drawn (as ++ as')) (ho : s.IsOrderly (as ++ as')) (d : Document)
    (hd : d ∈ (s.situation as).store.stored) :
    ∃ d' ∈ (s.situation (as ++ as')).store.stored, d'.Extends d ∧
      ∃ news, d'.audits = d.audits ++ news ∧
      ∀ v ∈ d.versions, ∃ v' ∈ d'.versions, v'.unmarked = v.unmarked ∧
        (v'.status = .draft → v.status = .draft) ∧
        (v.status.rank ≤ v'.status.rank ↔
          ¬(v.status = .archived ∧ news.getLast?.map (·.versionId) = some v.id)) := by
  obtain ⟨d', hd', hext⟩ := h.exists_extends ho hd
  obtain ⟨news, hnews⟩ := hext.audits
  refine ⟨d', hd', hext, news, hnews.symm, fun v hv => ?_⟩
  obtain ⟨v', hv', hsame⟩ := hext.exists_version hv
  have hid : v'.id = v.id := congrArg (·.id) hsame
  have hstatus := (h.of_append.trailed ho.of_append hd).status v hv
  have hstatus' := (h.trailed ho hd').status v' hv'
  rw [hid, ← hnews] at hstatus'
  refine ⟨v', hv', hsame, ?_, ?_⟩
  · rw [hstatus, hstatus']
    exact draft_of_standingAfter_append
  · rw [hstatus, hstatus']
    exact rank_standingAfter_append_le_iff

theorem forward_unless_republished_sample :
    let as := Sample.before.flatMap Move.actions
    let as' := (Sample.act 3 7).actions
    Action.Drawn (as ++ as') ∧ Sample.service.IsOrderly (as ++ as') ∧
    ∃ d ∈ (Sample.service.situation as).store.stored,
      ∃ v ∈ d.versions, v.status = .published ∧
      ∃ d' ∈ (Sample.service.situation (as ++ as')).store.stored,
        ∃ v' ∈ d'.versions, v'.unmarked = v.unmarked ∧ v.status.rank ≤ v'.status.rank := by
  have hmoves : Sample.moves.flatMap Move.actions =
      Sample.before.flatMap Move.actions ++ (Sample.act 3 7).actions := by
    rw [Sample.moves, List.flatMap_append, List.flatMap_singleton]
  have hdrawn := Sample.drawn_moves.actions
  have horderly := Sample.service.isOrderly_actions Sample.moves
  rw [hmoves] at hdrawn horderly
  have hpublished : ∃ d ∈ (Sample.service.run Sample.before).store.stored,
      ∃ v ∈ d.versions, v.status = .published := by
    decide +kernel
  rw [← Service.store_situation_actions] at hpublished
  obtain ⟨d, hd, v, hv, hstatus⟩ := hpublished
  obtain ⟨d', hd', -, news, -, hforward⟩ := forward_unless_republished Sample.service
    (Sample.before.flatMap Move.actions) (Sample.act 3 7).actions hdrawn horderly d hd
  obtain ⟨v', hv', hsame, -, hrank⟩ := hforward v hv
  have hle : v.status.rank ≤ v'.status.rank := hrank.2 (by simp [hstatus])
  exact ⟨hdrawn, horderly, d, hd, v, hv, hstatus, d', hd', v', hv', hsame, hle⟩

namespace Sample

/-- The first version is published once more, after the second one has been. -/
def again : List Move := [look 8 (publish "1.0.0"), act 4 9]

end Sample

/-- An archived version is published again. -/
theorem republished_sample :
    let as := Sample.moves.flatMap Move.actions
    let as' := Sample.again.flatMap Move.actions
    Action.Drawn (as ++ as') ∧ Sample.service.IsOrderly (as ++ as') ∧
    ∃ d ∈ (Sample.service.situation as).store.stored,
      ∃ d' ∈ (Sample.service.situation (as ++ as')).store.stored,
      ∃ v ∈ d.versions, ∃ v' ∈ d'.versions, d'.definition.id = d.definition.id ∧ v'.id = v.id ∧
        v.status = .archived ∧ v'.status = .published := by
  have hdrawn : Drawn (Sample.moves ++ Sample.again) := ⟨by decide +kernel, by decide +kernel⟩
  have horderly := Sample.service.isOrderly_actions (Sample.moves ++ Sample.again)
  simp only [← List.flatMap_append, Service.store_situation_actions]
  exact ⟨hdrawn.actions, horderly, by decide +kernel⟩

end WorkflowRelease
