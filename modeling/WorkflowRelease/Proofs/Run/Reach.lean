import Mathlib.Data.List.Induction
import WorkflowRelease.Proofs.Run.Basic
import WorkflowRelease.Proofs.Run.Turn

/-!
# Reached stores

What a move does to the documents of a reached store: at most one of them arises, and it does so in
its own place, either out of a plan that waited to found it or out of the document that was there.
Main statements: `neat_run`, a run reaches neat stores only, and `arises_or_eq_of_step`.
-/

namespace WorkflowRelease

/-- With a move, a document arises in a place. -/
inductive Arises (w : Scene) (m : Move) (p : Place) : Document → Prop
  | founded {n : Nat} {supply : Supply} {definition : Definition} {snapshot : Fields}
      {changelog : Option String} {fresh : Fresh} (act : m = .act n supply)
      (waits : w.founding n = some definition) (drawn : supply.fresh = .ok fresh)
      (free : w.store.ofWorkflowId? definition.workflowId = none)
      (place : w.store.folder.placeOf definition.id = .ok p) :
      Arises w m p (.first definition (Version.initial definition snapshot changelog fresh))
  | turned {n : Nat} {supply : Supply} {plan : Plan} {id : String} {d d' : Document}
      (act : m = .act n supply) (waits : w.waiting n = some plan)
      (accepted : ∀ f, plan.finding = some f → f.verdict.valid = true)
      (target : plan.change.target? = some id) (loaded : w.store.load id = .ok (some d))
      (held : w.store.at? p = some (.document d))
      (turns : Turns plan.party supply plan.change d d')
      (place : w.store.folder.placeOf d'.definition.id = .ok p) :
      Arises w m p d'

theorem Scene.founding_eq_some_iff {w : Scene} {n : Nat} {definition : Definition} :
    w.founding n = some definition ↔
      ∃ p workflow changelog, w.waiting n = some p ∧
        p.change = .create definition workflow changelog := by
  rw [founding, Option.bind_eq_some_iff]
  constructor
  · rintro ⟨p, hp, h⟩
    split at h
    · rename_i hc
      cases h
      exact ⟨p, _, _, hp, hc⟩
    · cases h
  · rintro ⟨p, workflow, changelog, hp, hc⟩
    exact ⟨p, hp, by rw [hc]⟩

theorem Arises.ofId {w : Scene} {m : Move} {p : Place} {d : Document} (h : Arises w m p d) :
    w.store.folder.placeOf d.definition.id = .ok p := by
  cases h with
  | founded _ _ _ _ place => exact place
  | turned _ _ _ _ _ _ _ place => exact place

namespace Service

variable {s : Service} {w : Scene} {m : Move}

@[simp] theorem stored_start (s : Service) : s.start.store.stored = [] := rfl

@[simp] theorem waiting_start (s : Service) (n : Nat) : s.start.waiting n = none := rfl

/-- A move leaves a neat store as it is, or one document arises. -/
theorem arises_or_eq_of_step (s : Service) (hn : w.store.Neat) (m : Move) :
    (s.step w m).store = w.store ∨
    ∃ p d, Arises w m p d ∧ (s.step w m).store = w.store.put p (.document d) := by
  rcases store_step s w m with h | ⟨n, supply, plan, outcome, hm, hp, hc⟩
  · exact .inl h
  · obtain ⟨hf, e, p, hstages, place, hput⟩ := Plan.stages_of_commit hc
    right
    rw [hput]
    cases hstages with
    | @found definition workflow changelog snapshot fresh creates written drawn free =>
      have hw : w.founding n = some definition :=
        Scene.founding_eq_some_iff.2 ⟨plan, workflow, changelog, hp, creates⟩
      exact ⟨p, _, .founded hm hw drawn free place, rfl⟩
    | @turn id d _ target loaded turns =>
      obtain ⟨q, -, hq, -⟩ := Store.load_eq_some_iff.1 loaded
      have hd := hn.located q d hq
      rw [← turns.extends.id, place] at hd
      cases hd
      exact ⟨p, e, .turned hm hp hf target loaded hq turns place, rfl⟩

theorem neat_step (hn : w.store.Neat) : (s.step w m).store.Neat := by
  rcases arises_or_eq_of_step s hn m with h | ⟨p, d, ha, h⟩
  · rw [h]
    exact hn
  · rw [h]
    exact hn.put ha.ofId

/-- The folder stays the same. -/
theorem folder_step (s : Service) (w : Scene) (m : Move) :
    (s.step w m).store.folder = w.store.folder := by
  rcases store_step s w m with h | ⟨n, supply, plan, outcome, -, -, hc⟩
  · rw [h]
  · obtain ⟨-, d, p, -, -, hput⟩ := Plan.stages_of_commit hc
    rw [hput, Store.folder_put]

@[simp] theorem folder_run (s : Service) (ms : List Move) : (s.run ms).store.folder = s.folder := by
  induction ms using List.reverseRecOn with
  | nil => rfl
  | append_singleton ms m ih => rw [run_concat, folder_step, ih]

/-- **The stores of a run** are neat. -/
theorem neat_run (s : Service) (ms : List Move) : (s.run ms).store.Neat := by
  induction ms using List.reverseRecOn with
  | nil => exact .empty s.folder
  | append_singleton ms m ih =>
    rw [run_concat]
    exact neat_step ih

/-- What is stored after a move was stored before, or arises. -/
theorem arises_of_mem (hn : w.store.Neat) {e : Document} (he : e ∈ (s.step w m).store.stored) :
    e ∈ w.store.stored ∨ ∃ p, Arises w m p e := by
  rcases arises_or_eq_of_step s hn m with h | ⟨p, d, ha, h⟩
  · rw [h] at he
    exact .inl he
  · rw [h] at he
    rcases Store.mem_stored_put he with he | rfl
    · exact .inl he
    · exact .inr ⟨p, ha⟩

/-- A definition that is to be founded was so before, or the move is a look of its creation. -/
theorem founding_step {k : Nat} {definition : Definition}
    (h : (s.step w m).founding k = some definition) :
    (w.founding k = some definition ∧ ∀ n supply, m = .act n supply → n ≠ k) ∨
    ∃ party r supply directory fresh owner, m = .look party (.create r) supply directory ∧
      k = w.plans.length ∧ supply.fresh = .ok fresh ∧ definition = r.definition owner fresh := by
  obtain ⟨p, workflow, changelog, hp, hc⟩ := Scene.founding_eq_some_iff.1 h
  rcases waiting_step hp with ⟨hw, hk⟩ | ⟨party, command, supply, directory, hm, hk, hr⟩
  · exact .inl ⟨Scene.founding_eq_some_iff.2 ⟨p, workflow, changelog, hw, hc⟩, hk⟩
  · cases planned_of_planAsking hr with
    | @create r fresh owner _ _ free drawn owned canonical examined =>
      cases hc
      exact .inr ⟨party, r, supply, directory, fresh, owner, hm, hk, drawn, rfl⟩
    | save => cases hc
    | publish => cases hc
    | update => cases hc
    | remove => cases hc

/-- A definition that is to be founded is a draft, and not active. -/
theorem draft_of_founding (s : Service) {ms : List Move} {n : Nat} {definition : Definition}
    (h : (s.run ms).founding n = some definition) :
    definition.status = .draft ∧ definition.isActive = false := by
  induction ms using List.reverseRecOn with
  | nil => cases h
  | append_singleton ms m ih =>
    rw [run_concat] at h
    rcases founding_step h with ⟨h, -⟩ | ⟨_, _, _, _, _, _, _, _, _, rfl⟩
    · exact ih h
    · exact ⟨rfl, rfl⟩

end Service

end WorkflowRelease
