import WorkflowRelease.Proofs.Privacy.Alike

/-!
# What a review is told

A review asks whether a definition is visible to the party, and only if so whether it is published.
So directories that agree on what is visible lead to the same findings. Main statements:
`examine_eq`, and `Alike.plan_eq`, a party makes the same plans in stores that are alike for it.
-/

namespace WorkflowRelease

/-- The directories tell a party the same of what is visible to it. -/
structure Directory.Agrees {ε : Type} (u : Party) (directory directory' : Directory ε) :
    Prop where
  isVisible : ∀ id, directory.isVisible id u = directory'.isVisible id u
  isPublished : ∀ id versionId, directory.isVisible id u = .ok true →
    directory.isPublished id versionId = directory'.isPublished id versionId

namespace Review

variable {ε : Type} {u : Party} {directory directory' : Directory ε}

theorem subflowFault?_eq (h : directory.Agrees u directory') (current : Option String)
    (t : SubflowTarget) :
    subflowFault? directory u current t = subflowFault? directory' u current t := by
  unfold subflowFault?
  cases t.definitionId with
  | none => rfl
  | some id =>
    dsimp only
    split
    · rfl
    · cases hv : directory.isVisible id u with
      | error e => rw [← h.isVisible, hv]; rfl
      | ok visible =>
        cases visible with
        | false => rw [← h.isVisible, hv]; rfl
        | true => rw [← h.isVisible, hv, h.isPublished id t.versionId hv]

theorem subflows_eq (h : directory.Agrees u directory') (current : Option String)
    (ts : List SubflowTarget) :
    subflows directory u current ts = subflows directory' u current ts := by
  induction ts with
  | nil => rfl
  | cons t ts ih => rw [subflows, subflows, subflowFault?_eq h, ih]

end Review

namespace Service

variable {u : Party} {directory directory' : Directory Unread}

/-- **Findings** are the same where directories agree. -/
theorem examine_eq (s : Service) (h : directory.Agrees u directory') (w : Workflow)
    (current : Option String) (stage : Stage) :
    s.examine directory w u current stage = s.examine directory' w u current stage := by
  unfold examine review Governance.review
  cases stage with
  | save => rfl
  | publish => rw [Review.subflows_eq h]

end Service

namespace Store.Alike

variable {u : Party} {s s' : Store}

theorem visible?_eq_shown (s : Store) (u : Party) (id : String) :
    s.visible? id u = (s.shown u id).map (Option.map fun d => d.definition.id) := by
  unfold visible? shown
  cases s.load id with
  | error faults => rfl
  | ok found =>
    cases found with
    | none => rfl
    | some d =>
      cases hd : d.definition.readableBy u <;>
        simp [bind, Except.bind, Except.map, Option.filter_some, hd]

theorem agrees (h : s.Alike u s') : s.directory.Agrees u s'.directory where
  isVisible id := by
    simp only [directory]
    rw [visible?_eq_shown, visible?_eq_shown, h.shown_eq]
  isPublished id versionId hv := by
    simp only [directory] at hv ⊢
    rw [visible?_eq_shown] at hv
    cases hs : s.shown u id with
    | error faults =>
      rw [hs] at hv
      cases hv
    | ok found =>
      cases found with
      | none =>
        rw [hs] at hv
        cases hv
      | some d =>
        have hl := load_of_shown hs
        have hl' := load_of_shown (h.shown_eq id ▸ hs)
        rw [published?, published?, hl, hl']

variable (service : Service)

theorem planSave_eq (h : s.Alike u s') (id : String) (r : VersionRequest) :
    service.planSave s s.directory u id r = service.planSave s' s'.directory u id r := by
  unfold Service.planSave
  simp only [service.examine_eq h.agrees]
  exact h.bind_loaded id fun found => by rw [editable_filter]

theorem planPublish_eq (h : s.Alike u s') (id : String) (r : PublishRequest) :
    service.planPublish s s.directory u id r = service.planPublish s' s'.directory u id r := by
  unfold Service.planPublish
  simp only [service.examine_eq h.agrees]
  exact h.bind_loaded id fun found => by rw [editable_filter]

/-- **Plans** are the same in alike stores, unless a definition is to be created. -/
theorem plan_eq (h : s.Alike u s') (supply : Supply) {c : Command} (hc : ∀ r, c ≠ .create r) :
    service.plan s u supply c = service.plan s' u supply c := by
  cases c with
  | create r => exact absurd rfl (hc r)
  | save id r => exact h.planSave_eq service id r
  | publish id r => exact h.planPublish_eq service id r
  | update id r => rfl
  | remove id => rfl

end Store.Alike

/-- What is not shown to a party is not saved or published for it. -/
theorem Service.plan_of_not_shown (service : Service) {u : Party} {s : Store} {id : String}
    (h : s.shown u id = .ok none) (supply : Supply) {c : Command}
    (hc : (∃ r, c = .save id r) ∨ ∃ r, c = .publish id r) :
    service.plan s u supply c = .refuse (.noDefinition id) := by
  rcases hc with ⟨r, rfl⟩ | ⟨r, rfl⟩
  · exact Store.bind_loaded_of_not_shown h fun found => by rw [Store.editable_filter]
  · exact Store.bind_loaded_of_not_shown h fun found => by rw [Store.editable_filter]

end WorkflowRelease
