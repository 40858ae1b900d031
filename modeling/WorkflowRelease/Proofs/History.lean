import WorkflowRelease.Proofs.Concurrent.Alone
import WorkflowRelease.Proofs.Run.Timeline

/-!
# History

What is stored is only ever added to, as long as no two units of work for one place overlap. Main
statement: `history_grows`, whatever is done next, each document is still there afterwards and
extends what it was, and one action changes one document at most. `history_lost` has two schedules
in which a document does not show what was there before: a version is written over under another
text for the same place, and a document is written that cannot be read back.
-/

namespace WorkflowRelease

variable {s : Service} {ms : List Move} {m : Move} {p : Place} {d e : Document}

/-- The ids of stored documents are drawn by the run. -/
theorem Drawn.isName_of_stored (h : Drawn ms) (hd : d ∈ (s.run ms).store.stored) :
    IsName d.definition.id :=
  h.names _ ((s.apart_run draws_id ms h.nodup).stored d hd)

/-- A stored document can be written to its place again, as far as the place goes. -/
theorem Drawn.placeFor_of_at? (h : Drawn ms) (hd : (s.run ms).store.at? p = some (.document d)) :
    (s.run ms).store.placeFor d.definition.id = .ok p := by
  have hfor := (s.run ms).store.placeFor_of_isName
    (h.isName_of_stored (Store.mem_stored_of_at? hd))
  have hof := (Store.placeFor_eq_ok_iff.1 hfor).1
  rw [(s.neat_run ms).located p d hd, Except.ok.injEq] at hof
  rw [hfor, ← hof]

/-- No definition is founded in a place that is taken. -/
theorem Drawn.place_ne_of_founding (h : Drawn ms) {n : Nat} {f : Definition}
    (hf : (s.run ms).founding n = some f) (hd : d ∈ (s.run ms).store.stored) :
    s.folder.placeOf f.id ≠ s.folder.placeOf d.definition.id := by
  have hapart := s.apart_run draws_id ms h.nodup
  intro hp
  have hid := (h.names _ (hapart.founding n f hf)).eq_of_place (h.isName_of_stored hd) hp
  exact hapart.apart n f hf d hd hid.symm

/-- What arises in the place of a document extends it. -/
theorem Arises.extends (h : Drawn ms) (ha : Arises (s.run ms) m p e)
    (hd : (s.run ms).store.at? p = some (.document d)) : e.Extends d := by
  cases ha with
  | founded _ waits _ _ place =>
    have hp := (s.neat_run ms).located p d hd
    have hne := h.place_ne_of_founding waits (Store.mem_stored_of_at? hd)
    rw [s.folder_run] at place hp
    exact absurd (place.trans hp.symm) hne
  | turned _ _ _ _ _ held turns _ =>
    rw [hd] at held
    cases held
    exact turns.extends

/-- After a move, each document that was stored has an extension in the store. -/
theorem Drawn.exists_extends_of_move (h : Drawn ms) (s : Service) (m : Move)
    (hd : d ∈ (s.run ms).store.stored) :
    ∃ d' ∈ (s.run (ms ++ [m])).store.stored, d'.Extends d := by
  have hn := s.neat_run ms
  obtain ⟨q, -, hq⟩ := hn.mem_stored_iff.1 hd
  rw [Service.run_concat]
  rcases Service.arises_or_eq_of_step s hn m with hs | ⟨p, e, ha, hs⟩
  · rw [hs]
    exact ⟨d, hd, .refl d⟩
  · rw [hs]
    by_cases hpq : p = q
    · subst hpq
      have he : ((s.run ms).store.put p (.document e)).at? p = some (.document e) := by
        rw [Store.at?_put, if_pos rfl]
      exact ⟨e, Store.mem_stored_of_at? he, ha.extends h hq⟩
    · have hd' : ((s.run ms).store.put p (.document e)).at? q = some (.document d) := by
        rw [Store.at?_put, if_neg hpq, hq]
      exact ⟨d, Store.mem_stored_of_at? hd', .refl d⟩

/-- After some moves, each document that was stored has an extension in the store. -/
theorem Drawn.exists_extends_of_moves {ms' : List Move} (h : Drawn (ms ++ ms'))
    (hd : d ∈ (s.run ms).store.stored) :
    ∃ d' ∈ (s.run (ms ++ ms')).store.stored, d'.Extends d := by
  induction ms' using List.reverseRecOn with
  | nil =>
    rw [List.append_nil]
    exact ⟨d, hd, .refl d⟩
  | append_singleton ms' m ih =>
    rw [← List.append_assoc] at h ⊢
    obtain ⟨d', hd', he⟩ := ih h.of_append
    obtain ⟨d'', hd'', he'⟩ := h.of_append.exists_extends_of_move s m hd'
    exact ⟨d'', hd'', he'.trans he⟩

/-- A move leaves all documents as they are but those of one id. -/
theorem Drawn.exists_id_of_move (h : Drawn ms) (s : Service) (m : Move) :
    ∃ id, ∀ d : Document, d.definition.id ≠ id →
      (d ∈ (s.run (ms ++ [m])).store.stored ↔ d ∈ (s.run ms).store.stored) := by
  have hn := s.neat_run ms
  have hn' := s.neat_run (ms ++ [m])
  rw [Service.run_concat] at hn' ⊢
  rcases Service.arises_or_eq_of_step s hn m with hs | ⟨p, e, ha, hs⟩
  · rw [hs]
    exact ⟨"", fun _ _ => Iff.rfl⟩
  · refine ⟨e.definition.id, fun d hne => ?_⟩
    rw [hn'.mem_stored_iff, hn.mem_stored_iff, hs]
    apply exists_congr
    intro q
    apply and_congr_right
    intro _
    rw [Store.at?_put]
    split
    · rename_i hpq
      subst hpq
      constructor
      · intro hd
        cases hd
        exact absurd rfl hne
      · intro hd
        exact absurd (ha.extends h hd).id.symm hne
    · exact Iff.rfl

/-! ## The course of a run -/

theorem Drawn.take (h : Drawn ms) (i : Nat) : Drawn (ms.take i) := by
  rw [← List.take_append_drop i ms] at h
  exact h.of_append

namespace Service

variable {i j : Nat} {id : String}

/-- What is in the place of a document later on extends it. -/
theorem exists_extends_of_le (h : Drawn ms)
    (hd : (s.sceneAt ms i).store.at? p = some (.document d)) (hij : i ≤ j) :
    ∃ e, (s.sceneAt ms j).store.at? p = some (.document e) ∧ e.Extends d := by
  refine kept_from (I := fun _ w => ∃ e, w.store.at? p = some (.document e) ∧ e.Extends d)
    ⟨d, hd, .refl d⟩ ?_ hij
  rintro k m - - ⟨e, he, hext⟩
  rcases arises_or_eq_of_step s (s.neat_sceneAt ms k) m with hs | ⟨q, e', ha, hs⟩
  · exact ⟨e, by rw [hs, he], hext⟩
  · rw [hs, Store.at?_put]
    split
    · rename_i hq
      subst hq
      exact ⟨e', rfl, (ha.extends (h.take k) he).trans hext⟩
    · exact ⟨e, he, hext⟩

end Service

/-! ## Schedules -/

namespace Action

variable {as as' : List Action} {i j : Nat}

theorem Drawn.of_append (h : Drawn (as ++ as')) : Drawn as where
  names id hid := h.names id (by rw [List.flatMap_append]; exact List.mem_append_left _ hid)
  nodup := by
    have hnodup := h.nodup
    rw [List.flatMap_append] at hnodup
    exact (List.nodup_append.1 hnodup).1

/-- After more of an orderly schedule, each document that was stored has an extension in the store.
-/
theorem Drawn.exists_extends (h : Drawn (as ++ as')) (ho : s.IsOrderly (as ++ as'))
    (hd : d ∈ (s.situation as).store.stored) :
    ∃ d' ∈ (s.situation (as ++ as')).store.stored, d'.Extends d := by
  have hserial := h.serial s
  rw [← Service.store_serial ho.of_append] at hd
  rw [← Service.store_serial ho]
  rw [Service.serial_append] at hserial ⊢
  exact hserial.exists_extends_of_moves hd

theorem Drawn.take (h : Drawn as) (i : Nat) : Drawn (as.take i) := by
  rw [← List.take_append_drop i as] at h
  exact h.of_append

/-- In an orderly schedule, the document of an id extends what it has been before. -/
theorem Drawn.extends_of_load (h : Drawn as) (ho : s.IsOrderly as) (hij : i ≤ j) {id : String}
    (hd : (s.situation (as.take i)).store.load id = .ok (some d))
    (he : (s.situation (as.take j)).store.load id = .ok (some e)) : e.Extends d := by
  obtain ⟨cs, hcs⟩ := List.take_prefix_take_left hij (l := as)
  have h := h.take j
  have ho := ho.take j
  rw [← hcs] at h ho he
  obtain ⟨d', hd', hext⟩ := h.exists_extends ho (Store.mem_stored_of_load hd)
  -- the extension is in the place of the id, where the other document is
  obtain ⟨p, hp, hat, -⟩ := Store.load_eq_some_iff.1 hd
  obtain ⟨q, hq, hat', -⟩ := Store.load_eq_some_iff.1 he
  obtain ⟨q', hq', hat''⟩ := (Service.neat_situation ho).mem_stored_iff.1 hd'
  have hlocated := (Service.neat_situation ho.of_append).located p d hat
  rw [Service.folder_situation ho.of_append] at hp hlocated
  rw [Service.folder_situation ho] at hq hq'
  rw [hext.id, hlocated] at hq'
  rw [hp] at hq
  cases hq
  cases hq'
  cases hat'.symm.trans hat''
  exact hext

end Action

/-- An action is at most one move. -/
theorem Situation.moves_cases (w : Situation) (a : Action) :
    w.moves a = [] ∨ ∃ m, w.moves a = [m] := by
  unfold moves
  split
  · exact .inr ⟨_, rfl⟩
  · split
    · split
      · exact .inr ⟨_, rfl⟩
      · exact .inl rfl
    · exact .inl rfl
  · exact .inl rfl

/-- **History grows.** In every schedule in which no id is drawn twice and no two units of work for
one place overlap, whatever is done next: each document stays in the store, about the same workflow
of the same owner, with the same versions and audits as before, possibly followed by more; at most
the statuses and the marks of publication of versions have changed. Its id leads to it, unless it
cannot be read back. No id is stored twice, and a single action leaves all documents as they are but
those of one id. -/
theorem history_grows (s : Service) (as as' : List Action) (h : Action.Drawn (as ++ as'))
    (ho : s.IsOrderly (as ++ as')) :
    (∀ d ∈ (s.situation as).store.stored, ∃ d' ∈ (s.situation (as ++ as')).store.stored,
      d'.Extends d ∧ (s.situation (as ++ as')).store.load d.definition.id =
        if d'.toJson.isReadable then .ok (some d') else .error (.faulty Stored.unparsable)) ∧
    ((s.situation (as ++ as')).store.stored.map (·.definition.id)).Nodup ∧
    (∀ a, as' = [a] → ∃ id, ∀ d : Document, d.definition.id ≠ id →
      (d ∈ (s.situation (as ++ as')).store.stored ↔ d ∈ (s.situation as).store.stored)) := by
  have hneat := Service.neat_situation ho
  refine ⟨?_, hneat.nodup_ids, ?_⟩
  · intro d hd
    obtain ⟨d', hd', hext⟩ := h.exists_extends ho hd
    obtain ⟨p, hp, hat⟩ := hneat.mem_stored_iff.1 hd'
    rw [hext.id] at hp
    exact ⟨d', hd', hext, Store.load_of_at? hp hat⟩
  · rintro a rfl
    have hserial := h.serial s
    rw [← Service.store_serial ho, ← Service.store_serial ho.of_append, Service.serial_concat]
    rw [Service.serial_concat] at hserial
    rcases (s.situation as).moves_cases a with hm | ⟨m, hm⟩
    · rw [hm, List.append_nil]
      exact ⟨"", fun _ _ => Iff.rfl⟩
    · rw [hm] at hserial ⊢
      exact hserial.of_append.exists_id_of_move s m

/-- The second version is published, and the audit of the first one stays. -/
theorem history_grows_at_publication :
    let as := Sample.before.flatMap Move.actions
    let as' := (Sample.act 3 7).actions
    Action.Drawn (as ++ as') ∧ Sample.service.IsOrderly (as ++ as') ∧
    ∃ d ∈ (Sample.service.situation as).store.stored, d.audits.length = 1 ∧
      ∃ d' ∈ (Sample.service.situation (as ++ as')).store.stored,
        d'.audits.length = 2 ∧ d'.Extends d := by
  have hmoves : Sample.before.flatMap Move.actions ++ (Sample.act 3 7).actions =
      Sample.moves.flatMap Move.actions := by
    rw [Sample.moves, List.flatMap_append, List.flatMap_singleton]
  have hdrawn := Sample.drawn_moves.actions
  have horderly := Sample.service.isOrderly_actions Sample.moves
  have hone : ∃ d ∈ (Sample.service.run Sample.before).store.stored, d.audits.length = 1 := by
    decide +kernel
  have htwo : ∀ d ∈ (Sample.service.run Sample.moves).store.stored, d.audits.length = 2 := by
    decide +kernel
  obtain ⟨d, hd, hlength⟩ := hone
  rw [← hmoves] at hdrawn horderly
  rw [← Service.store_situation_actions] at hd htwo
  obtain ⟨hext, -, -⟩ := history_grows Sample.service (Sample.before.flatMap Move.actions)
    (Sample.act 3 7).actions hdrawn horderly
  obtain ⟨d', hd', he, -⟩ := hext d hd
  rw [← hmoves] at htwo
  exact ⟨hdrawn, horderly, d, hd, hlength, d', hd', htwo d' hd', he⟩

namespace Sample

/-- Two versions are saved under two texts for one place, and the units of work overlap. -/
def overlapping : List Action :=
  (founding snapshot).flatMap Move.actions ++
    [.look owner (.save "definition-0" { snapshot }) (supply 2) directory,
      .look owner (.save "./definition-0" { snapshot }) (supply 3) directory,
      .enter 1 (supply 4), .enter 2 (supply 5), .draft 1 none, .settle 1 none none,
      .draft 2 none, .settle 2 none none]

/-- A version with deep lists is saved. -/
def deepening : List Action :=
  (founding snapshot ++ [look 2 (.save "definition-0" { snapshot := deep }), act 1 3]).flatMap
    Move.actions

end Sample

/-- The later one of two overlapping units of work writes over the version that the other one has
saved. And the document with the deep version is there, but nobody finds it any more. -/
theorem history_lost :
    (Action.Drawn Sample.overlapping ∧
      ∃ d ∈ (Sample.service.situation (Sample.overlapping.take 10)).store.stored,
      ∃ d' ∈ (Sample.service.situation Sample.overlapping).store.stored,
        d'.definition.id = d.definition.id ∧
        d.versions.map (·.id) = ["version-1", "version-4"] ∧
        d'.versions.map (·.id) = ["version-1", "version-5"]) ∧
    Action.Drawn Sample.deepening ∧
      (Sample.service.situation (Sample.deepening.take 4)).store.documents.map (·.definition.id) =
        ["definition-0"] ∧
      (Sample.service.situation Sample.deepening).store.stored.map (·.definition.id) =
        ["definition-0"] ∧
      (Sample.service.situation Sample.deepening).store.documents = [] := by
  refine ⟨⟨⟨?_, ?_⟩, ?_⟩, ⟨?_, ?_⟩, ?_, ?_, ?_⟩ <;> decide +kernel

end WorkflowRelease
