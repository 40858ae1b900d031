import WorkflowRelease.Proofs.Run.Reach

/-!
# Marks of definitions

An id or a time that a definition carries is a mark of it, and moves draw new ones. As long as no
mark is drawn twice, no two definitions that are still to be founded have the same mark, and none
has a mark that is stored. Main statement: `apart_run`, for any kind of mark.
-/

namespace WorkflowRelease

/-- Moves draw the marks: those of new definitions, and those that turns change. -/
structure Draws (draw : Move → List String) (mark : Definition → String) : Prop where
  founded : ∀ party r supply directory fresh owner, supply.fresh = .ok fresh →
    mark (CreateRequest.definition r owner fresh) ∈ draw (.look party (.create r) supply directory)
  turned : ∀ n party supply c d d', Turns party supply c d d' →
    mark d'.definition = mark d.definition ∨ mark d'.definition ∈ draw (.act n supply)

/-- All marks have been drawn, and no definition to be founded shares its mark. -/
structure Apart (mark : Definition → String) (drawn : List String) (w : Scene) : Prop where
  stored : ∀ d ∈ w.store.stored, mark d.definition ∈ drawn
  founding : ∀ n f, w.founding n = some f → mark f ∈ drawn
  apart : ∀ n f, w.founding n = some f → ∀ d ∈ w.store.stored, mark d.definition ≠ mark f
  eq_of_mark : ∀ n n' f f', w.founding n = some f → w.founding n' = some f' →
    mark f = mark f' → n = n'

theorem draws_id : Draws Move.ids (·.id) where
  founded _ r supply _ fresh owner h := by
    obtain ⟨-, hid, -, -⟩ := Supply.fresh_eq_ok h
    show fresh.definitionId ∈ [supply.definitionId]
    rw [hid]
    exact List.mem_singleton_self _
  turned _ _ _ _ _ _ h := .inl h.extends.id

theorem now_mem_times {supply : Supply} {fresh : Fresh} (h : supply.fresh = .ok fresh) :
    fresh.now ∈ supply.time.toOption.toList := by
  obtain ⟨ht, -, -, -⟩ := Supply.fresh_eq_ok h
  rw [ht]
  exact List.mem_singleton_self _

theorem draws_updatedAt : Draws Move.times (·.updatedAt) where
  founded _ _ _ _ _ _ h := now_mem_times h
  turned _ _ _ _ _ _ h := by
    rcases h.eq_or_now with rfl | ⟨fresh, hf, ht⟩
    · exact .inl rfl
    · right
      rw [ht]
      exact now_mem_times hf

variable {draw : Move → List String} {mark : Definition → String}

namespace Apart

variable {s : Service} {w : Scene} {m : Move} {drawn : List String}

theorem start (s : Service) : Apart mark [] s.start where
  stored := by simp
  founding n f h := by simp [Scene.founding] at h
  apart n f h := by simp [Scene.founding] at h
  eq_of_mark n n' f f' h := by simp [Scene.founding] at h

/-- A mark that arises was there before, was to be founded by the move, or is new. -/
theorem mark_of_arises (hd : Draws draw mark) {p : Place} {e : Document} (ha : Arises w m p e) :
    (∃ d ∈ w.store.stored, mark d.definition = mark e.definition) ∨
    (∃ n supply f, m = .act n supply ∧ w.founding n = some f ∧ mark f = mark e.definition) ∨
    mark e.definition ∈ draw m := by
  cases ha with
  | @founded n supply f _ _ _ act waits _ _ _ => exact .inr (.inl ⟨n, supply, f, act, waits, rfl⟩)
  | @turned n supply plan _ d _ act _ _ _ _ held turns _ =>
    rcases hd.turned n _ _ _ _ _ turns with he | he
    · exact .inl ⟨d, Store.mem_stored_of_at? held, he.symm⟩
    · exact .inr (.inr (act ▸ he))

/-- A mark that is to be founded was so before, or is new and of a new operation. -/
theorem mark_of_founding (hd : Draws draw mark) {k : Nat} {f : Definition}
    (h : (s.step w m).founding k = some f) :
    (w.founding k = some f ∧ ∀ n supply, m = .act n supply → n ≠ k) ∨
    (k = w.plans.length ∧ mark f ∈ draw m ∧ ∀ n supply, m ≠ .act n supply) := by
  rcases Service.founding_step h with h | ⟨_, r, supply, _, fresh, owner, hm, hk, hf, rfl⟩
  · exact .inl h
  · refine .inr ⟨hk, ?_, ?_⟩
    · rw [hm]
      exact hd.founded _ _ _ _ _ _ hf
    · rw [hm]
      simp

theorem step (hd : Draws draw mark) (hn : w.store.Neat) (h : Apart mark drawn w)
    (hnew : ∀ x ∈ draw m, x ∉ drawn) : Apart mark (drawn ++ draw m) (s.step w m) where
  stored e he := by
    rw [List.mem_append]
    rcases Service.arises_of_mem hn he with he | ⟨p, ha⟩
    · exact .inl (h.stored e he)
    · rcases mark_of_arises hd ha with ⟨d, hm, hde⟩ | ⟨n, _, f, -, hf, hfe⟩ | hm
      · exact .inl (hde ▸ h.stored d hm)
      · exact .inl (hfe ▸ h.founding n f hf)
      · exact .inr hm
  founding k f hf := by
    rw [List.mem_append]
    rcases mark_of_founding hd hf with ⟨hf, -⟩ | ⟨-, hm, -⟩
    · exact .inl (h.founding k f hf)
    · exact .inr hm
  apart k f hf e he heq := by
    rcases mark_of_founding hd hf with ⟨hf, hk⟩ | ⟨-, hm, hlook⟩
    · rcases Service.arises_of_mem hn he with he | ⟨p, ha⟩
      · exact h.apart k f hf e he heq
      · rcases mark_of_arises hd ha with ⟨d, hmem, hde⟩ | ⟨n, supply, f', act, hf', hfe⟩ | hmem
        · exact h.apart k f hf d hmem (hde.trans heq)
        · -- the operation that founds `e` waits no longer
          exact hk n supply act (h.eq_of_mark n k f' f hf' hf (hfe.trans heq))
        · exact hnew _ hmem (heq ▸ h.founding k f hf)
    · rcases Service.arises_of_mem hn he with he | ⟨p, ha⟩
      · exact hnew _ hm (heq ▸ h.stored e he)
      · cases ha with
        | founded act => exact hlook _ _ act
        | turned act => exact hlook _ _ act
  eq_of_mark k k' f f' hf hf' heq := by
    rcases mark_of_founding hd hf with ⟨hf, -⟩ | ⟨hk, hm, -⟩
    · rcases mark_of_founding hd hf' with ⟨hf', -⟩ | ⟨-, hm', -⟩
      · exact h.eq_of_mark k k' f f' hf hf' heq
      · exact absurd (heq ▸ h.founding k f hf) (hnew _ hm')
    · rcases mark_of_founding hd hf' with ⟨hf', -⟩ | ⟨hk', -, -⟩
      · exact absurd (heq ▸ h.founding k' f' hf') (hnew _ hm)
      · rw [hk, hk']

end Apart

/-- **Marks that are drawn once** keep definitions apart. -/
theorem Service.apart_run (s : Service) (hd : Draws draw mark) (ms : List Move)
    (h : (ms.flatMap draw).Nodup) : Apart mark (ms.flatMap draw) (s.run ms) := by
  induction ms using List.reverseRecOn with
  | nil => exact .start s
  | append_singleton ms m ih =>
    have hms := ih (nodup_of_append h)
    rw [run_concat, List.flatMap_append, List.flatMap_singleton]
    exact hms.step hd (neat_run s ms) fun x hx => not_mem_of_nodup h hx

end WorkflowRelease
