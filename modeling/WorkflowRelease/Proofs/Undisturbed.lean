import WorkflowRelease.Proofs.Run.Timeline

/-!
# Undisturbed publications

A publication goes through only on the document that it has looked at. Every change of a document
gives it a new time, so a document that has once made way for another one does not come back, and
its time is what a publication compares. Main statement: `publishes_undisturbed`.
-/

namespace WorkflowRelease

/-- The document may be in the place; whatever else is there, now or later, is of another time. -/
structure OwnTime (d : Document) (p : Place) (drawn : List String) (w : Scene) : Prop where
  drawn : d.definition.updatedAt ∈ drawn
  founding : ∀ n f, w.founding n = some f → f.updatedAt ≠ d.definition.updatedAt
  eq_of_time : ∀ e, w.store.at? p = some (.document e) →
    e.definition.updatedAt = d.definition.updatedAt → e = d

namespace OwnTime

variable {s : Service} {w : Scene} {m : Move} {d e : Document} {p : Place} {drawn : List String}

/-- What arises in the place is of a new time, or it was there before. -/
theorem held_of_arises (h : OwnTime d p drawn w) (hnew : ∀ x ∈ m.times, x ∉ drawn)
    (ha : Arises w m p e) (ht : e.definition.updatedAt = d.definition.updatedAt) :
    w.store.at? p = some (.document e) := by
  cases ha with
  | founded _ waits _ _ _ => exact absurd ht (h.founding _ _ waits)
  | turned act _ _ _ _ held turns _ =>
    rcases turns.eq_or_now with rfl | ⟨fresh, hf, hnow⟩
    · exact held
    · have hmem : fresh.now ∈ m.times := act ▸ now_mem_times hf
      rw [← hnow, ht] at hmem
      exact absurd h.drawn (hnew _ hmem)

theorem step (hn : w.store.Neat) (hnew : ∀ x ∈ m.times, x ∉ drawn) (h : OwnTime d p drawn w) :
    OwnTime d p (drawn ++ m.times) (s.step w m) where
  drawn := List.mem_append_left _ h.drawn
  founding k f hf ht := by
    rcases Apart.mark_of_founding draws_updatedAt hf with ⟨hf, -⟩ | ⟨-, hm, -⟩
    · exact h.founding k f hf ht
    · exact hnew _ hm (ht ▸ h.drawn)
  eq_of_time e he ht := by
    rcases Service.arises_or_eq_of_step s hn m with hs | ⟨q, e', ha, hs⟩
    · rw [hs] at he
      exact h.eq_of_time e he ht
    · rw [hs, Store.at?_put] at he
      split at he
      · rename_i hq
        subst hq
        cases he
        exact h.eq_of_time e (h.held_of_arises hnew ha ht) ht
      · exact h.eq_of_time e he ht

/-- A document that is gone does not come back. -/
theorem gone_step (hn : w.store.Neat) (hnew : ∀ x ∈ m.times, x ∉ drawn) (h : OwnTime d p drawn w)
    (hgone : w.store.at? p ≠ some (.document d)) :
    (s.step w m).store.at? p ≠ some (.document d) := by
  intro hd
  rcases Service.arises_or_eq_of_step s hn m with hs | ⟨q, e, ha, hs⟩
  · rw [hs] at hd
    exact hgone hd
  · rw [hs, Store.at?_put] at hd
    split at hd
    · rename_i hq
      subst hq
      cases hd
      exact hgone (h.held_of_arises hnew ha rfl)
    · exact hgone hd

end OwnTime

namespace Service

variable {s : Service} {ms : List Move} {i j k n : Nat} {id : String} {d : Document} {p : Place}

theorem ownTime_of_le (h : (ms.flatMap Move.times).Nodup)
    (hd : (s.sceneAt ms i).store.at? p = some (.document d)) (hij : i ≤ j) :
    OwnTime d p ((ms.take j).flatMap Move.times) (s.sceneAt ms j) := by
  have hapart := s.apart_sceneAt draws_updatedAt h i
  have hmem := Store.mem_stored_of_at? hd
  refine kept_from (I := fun ms' w => OwnTime d p (ms'.flatMap Move.times) w) ?_ ?_ hij
  · refine ⟨hapart.stored d hmem, fun n f hf => (hapart.apart n f hf d hmem).symm, ?_⟩
    intro e he _
    rw [hd] at he
    cases he
    rfl
  · intro j m _ hm ih
    rw [List.flatMap_append, List.flatMap_singleton]
    exact ih.step (s.neat_sceneAt ms j) (not_mem_take_of_nodup h hm)

theorem gone_of_le (h : (ms.flatMap Move.times).Nodup)
    (hd : (s.sceneAt ms i).store.at? p = some (.document d)) (hij : i ≤ j)
    (hgone : (s.sceneAt ms j).store.at? p ≠ some (.document d)) (hjk : j ≤ k) :
    (s.sceneAt ms k).store.at? p ≠ some (.document d) := by
  refine kept_from (I := fun _ w => w.store.at? p ≠ some (.document d)) hgone ?_ hjk
  intro k m hjk hm ih
  have hw := ownTime_of_le h hd (Nat.le_trans hij hjk)
  exact hw.gone_step (s.neat_sceneAt ms k) (not_mem_take_of_nodup h hm) ih

/-- The plan that an operation acts on after its look. -/
theorem planned_of_looks (hl : s.LooksToPublish ms i n id d) {plan : Plan}
    (hp : (s.sceneAt ms j).waiting n = some plan) :
    i < j ∧ ∃ versionId comment,
      plan.change = .publish id versionId d.definition.updatedAt comment := by
  obtain ⟨party, r, supply, directory, hm, hn, hload⟩ := hl
  obtain ⟨hij, hplanned⟩ := planned_of_look hm hn hp
  refine ⟨hij, ?_⟩
  cases hplanned with
  | publish loaded _ _ _ _ _ _ =>
    rw [hload] at loaded
    cases loaded
    exact ⟨_, _, rfl⟩

/-- A publication that goes through finds in the place of the document nothing else, from its look
on until it acts, and puts the published document there, with a new time. -/
theorem held_of_publish (h : (ms.flatMap Move.times).Nodup) (hl : s.LooksToPublish ms i n id d)
    {o : Outcome} (he : s.Ends ms j n (.ok o)) :
    i < j ∧ ∃ p, s.folder.placeOf id = .ok p ∧ d.toJson.isReadable = true ∧
      (∀ k, i ≤ k → k ≤ j → (s.sceneAt ms k).store.at? p = some (.document d)) ∧
      ∃ outcome user now, now ≠ d.definition.updatedAt ∧ (s.sceneAt ms (j + 1)).store =
        (s.sceneAt ms j).store.put p (.document (d.publish outcome user now)) := by
  obtain ⟨supply, plan, hm, hwait, hc⟩ := he.commit
  obtain ⟨hij, versionId, comment, hchange⟩ := planned_of_looks hl hwait
  obtain ⟨_, _, _, _, -, -, hload⟩ := hl
  obtain ⟨p, hp, hd, hread⟩ := Store.load_eq_some_iff.1 hload
  have hw := ownTime_of_le h hd (Nat.le_of_lt hij)
  obtain ⟨-, e', q, hstages, place, hput⟩ := Plan.stages_of_commit hc
  rw [hchange] at hstages
  rw [s.folder_sceneAt] at hp
  refine ⟨hij, p, hp, hread, ?_⟩
  rw [hput]
  cases hstages with
  | found creates => cases creates
  | @turn _ e _ target loaded turns =>
    cases target
    obtain ⟨q', hq', he, -⟩ := Store.load_eq_some_iff.1 loaded
    rw [s.folder_sceneAt, hp] at hq'
    cases hq'
    have hid := (s.neat_sceneAt ms j).located p e he
    rw [← turns.extends.id, place] at hid
    cases hid
    cases turns with
    | @publish _ _ _ _ _ target fresh code _ _ _ _ unchanged drawn _ =>
      have hde := hw.eq_of_time e he unchanged
      subst hde
      refine ⟨?_, _, _, _, ?_, rfl⟩
      · intro k hik hkj
        by_contra hgone
        exact gone_of_le h hd hik hgone hkj he
      · intro hnow
        have hmem : fresh.now ∈ Move.times (.act n supply) := now_mem_times drawn
        exact not_mem_take_of_nodup h hm _ hmem (hnow ▸ hw.drawn)

/-- Of two publications that have looked at one document, none goes through after the other. -/
theorem not_lt_of_publishes (h : (ms.flatMap Move.times).Nodup) {i' j' n' : Nat} {id' : String}
    (hl : s.LooksToPublish ms i n id d) (hl' : s.LooksToPublish ms i' n' id' d) {o o' : Outcome}
    (he : s.Ends ms j n (.ok o)) (he' : s.Ends ms j' n' (.ok o')) : ¬j < j' := by
  intro hlt
  obtain ⟨hij, p, -, -, hheld, outcome, user, now, hnow, hput⟩ := held_of_publish h hl he
  obtain ⟨hij', p', -, -, hheld', -⟩ := held_of_publish h hl' he'
  have hd := hheld i (Nat.le_refl i) (Nat.le_of_lt hij)
  have hd' := hheld' j' (Nat.le_of_lt hij') (Nat.le_refl j')
  -- both have found the document in the place of its id
  have hp := (s.neat_sceneAt ms i).located p d hd
  have hp' := (s.neat_sceneAt ms j').located p' d hd'
  rw [s.folder_sceneAt] at hp hp'
  rw [hp] at hp'
  cases hp'
  have hgone : (s.sceneAt ms (j + 1)).store.at? p ≠ some (.document d) := by
    rw [hput, Store.at?_put, if_pos rfl]
    intro heq
    have heq' : d.publish outcome user now = d := by simpa using heq
    exact hnow (congrArg (·.definition.updatedAt) heq')
  exact gone_of_le h hd (by omega) hgone hlt hd'

end Service

/-- **Publications are undisturbed.** In every run in which no time is taken twice, whatever else is
going on: a publication that goes through finds the document that it has looked at, at every moment
from its look on until it acts, and puts the published document in its place. Of all publications
that have looked at one document at most one goes through; when one does, each other one that ends
is refused, and what is stored stays as it is. -/
theorem publishes_undisturbed (s : Service) (ms : List Move) (h : (ms.flatMap Move.times).Nodup) :
    (∀ i j n id d o, s.LooksToPublish ms i n id d → s.Ends ms j n (.ok o) →
      i < j ∧ (∀ k, i ≤ k → k ≤ j → (s.sceneAt ms k).store.load id = .ok (some d)) ∧
      ∃ p outcome user now, s.folder.placeOf id = .ok p ∧ (s.sceneAt ms (j + 1)).store =
        (s.sceneAt ms j).store.put p (.document (d.publish outcome user now))) ∧
    (∀ i i' j j' n n' id id' d o o', s.LooksToPublish ms i n id d →
      s.LooksToPublish ms i' n' id' d → s.Ends ms j n (.ok o) → s.Ends ms j' n' (.ok o') →
      n = n') ∧
    (∀ i i' j k n n' id id' d o answer, s.LooksToPublish ms i n id d →
      s.LooksToPublish ms i' n' id' d → n ≠ n' → s.Ends ms j n (.ok o) →
      s.Ends ms k n' answer →
      (∃ r, answer = .error r) ∧ (s.sceneAt ms (k + 1)).store = (s.sceneAt ms k).store) := by
  have hone : ∀ i i' j j' n n' id id' d o o', s.LooksToPublish ms i n id d →
      s.LooksToPublish ms i' n' id' d → s.Ends ms j n (.ok o) → s.Ends ms j' n' (.ok o') →
      n = n' := by
    intro i i' j j' n n' id id' d o o' hl hl' he he'
    have hle := Service.not_lt_of_publishes h hl hl' he he'
    have hge := Service.not_lt_of_publishes h hl' hl he' he
    have hjj : j = j' := by omega
    subst hjj
    obtain ⟨_, _, hm, -, -⟩ := he.commit
    obtain ⟨_, _, hm', -, -⟩ := he'.commit
    rw [hm] at hm'
    cases hm'
    rfl
  refine ⟨?_, hone, ?_⟩
  · intro i j n id d o hl he
    obtain ⟨hij, p, hp, hread, hheld, outcome, user, now, -, hput⟩ :=
      Service.held_of_publish h hl he
    refine ⟨hij, ?_, p, outcome, user, now, hp, hput⟩
    intro k hik hkj
    exact Store.load_eq_some_iff.2 ⟨p, by rw [s.folder_sceneAt, hp], hheld k hik hkj, hread⟩
  · intro i i' j k n n' id id' d o answer hl hl' hne he hk
    cases answer with
    | error r => exact ⟨⟨r, rfl⟩, hk.store_of_error⟩
    | ok o' => exact absurd (hone i i' j k n n' id id' d o o' hl hl' he hk) hne

theorem publishes_undisturbed_of_two :
    (Sample.moves.flatMap Move.times).Nodup ∧
    ∃ d o r, Sample.service.LooksToPublish Sample.moves 2 1 "definition-0" d ∧
      Sample.service.LooksToPublish Sample.moves 3 2 "definition-0" d ∧
      Sample.service.Ends Sample.moves 4 2 (.ok o) ∧
      (Sample.service.sceneAt Sample.moves 4).store.load "definition-0" = .ok (some d) ∧
      Sample.service.Ends Sample.moves 5 1 (.error r) ∧
      (Sample.service.sceneAt Sample.moves 6).store =
        (Sample.service.sceneAt Sample.moves 5).store := by
  have hnodup : (Sample.moves.flatMap Move.times).Nodup := by decide +kernel
  have hload : ((Sample.service.sceneAt Sample.moves 3).store.load
      "definition-0").toOption.join.isSome = true := by
    decide +kernel
  have hsame : (Sample.service.sceneAt Sample.moves 2).store =
      (Sample.service.sceneAt Sample.moves 3).store := by
    decide +kernel
  have hended : ((Sample.service.answer (Sample.service.sceneAt Sample.moves 4)
      (Sample.act 2 4)).bind Except.toOption).isSome = true := by
    decide +kernel
  have hanswered : (Sample.service.answer (Sample.service.sceneAt Sample.moves 5)
      (Sample.act 1 5)).isSome = true := by
    decide +kernel
  obtain ⟨d, hd⟩ := Option.isSome_iff_exists.1 hload
  obtain ⟨o, ho⟩ := Option.isSome_iff_exists.1 hended
  obtain ⟨answer, ha⟩ := Option.isSome_iff_exists.1 hanswered
  have hd := eq_ok_of_toOption (Option.join_eq_some_iff.1 hd)
  obtain ⟨x, hx, ho⟩ := Option.bind_eq_some_iff.1 ho
  have ho := eq_ok_of_toOption ho
  have hlook : Sample.service.LooksToPublish Sample.moves 2 1 "definition-0" d :=
    ⟨_, _, _, _, rfl, by decide +kernel, hsame ▸ hd⟩
  have hlook' : Sample.service.LooksToPublish Sample.moves 3 2 "definition-0" d :=
    ⟨_, _, _, _, rfl, by decide +kernel, hd⟩
  have hends : Sample.service.Ends Sample.moves 4 2 (.ok o) := ⟨Sample.act 2 4, rfl, rfl, ho ▸ hx⟩
  have hends' : Sample.service.Ends Sample.moves 5 1 answer := ⟨Sample.act 1 5, rfl, rfl, ha⟩
  obtain ⟨hheld, -, hrest⟩ := publishes_undisturbed Sample.service Sample.moves hnodup
  obtain ⟨-, hbetween, -⟩ := hheld 3 4 2 "definition-0" d o hlook' hends
  obtain ⟨⟨r, rfl⟩, hstore⟩ :=
    hrest 3 2 4 5 2 1 "definition-0" "definition-0" d o answer hlook' hlook (by decide) hends hends'
  exact ⟨hnodup, d, o, r, hlook, hlook', hends, hbetween 4 (by decide) (by decide), hends', hstore⟩

end WorkflowRelease
