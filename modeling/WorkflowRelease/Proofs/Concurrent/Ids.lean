import Mathlib.Data.List.Count
import Mathlib.Data.List.Nodup
import WorkflowRelease.Proofs.Concurrent.Serial

/-!
# Ids and places of a schedule

What the run of a schedule draws has been drawn by the schedule (`Drawn.serial`). And a schedule is
orderly unless two texts for one place are used as ids: if there are none, the locks, which go by
the texts, keep units of work for one place apart. Main statement: `isOrderly_of_spelled`.
-/

namespace WorkflowRelease

/-! ## Ids -/

/-- The ids that an action may give to records. -/
def Action.ids : Action → List String
  | .look _ (.create _) supply _ => [supply.definitionId]
  | .enter _ supply => [supply.versionId, supply.auditId]
  | _ => []

/-- The ids of a schedule are drawn: each one is a label and some digits, and none is drawn twice.
-/
structure Action.Drawn (as : List Action) : Prop where
  names : ∀ id ∈ as.flatMap Action.ids, IsName id
  nodup : (as.flatMap Action.ids).Nodup

/-- The ids for the records of a unit of work. -/
def Operation.ids (o : Operation) : List String :=
  match o.phase.work? with
  | some u => [u.supply.versionId, u.supply.auditId]
  | none => []

theorem count_flatMap_set {α : Type} {l : List α} {f : α → List String} {n : Nat} {a : α}
    (h : l[n]? = some a) (b : α) (x : String) :
    ((l.set n b).flatMap f).count x + (f a).count x = (l.flatMap f).count x + (f b).count x := by
  induction l generalizing n with
  | nil => cases h
  | cons c l ih =>
    cases n with
    | zero =>
      cases h
      simp only [List.set_cons_zero, List.flatMap_cons, List.count_append]
      omega
    | succ n =>
      have htail := ih (n := n) h
      simp only [List.set_cons_succ, List.flatMap_cons, List.count_append]
      omega

/-- An operation that gets on has other ids afterwards. -/
theorem Situation.count_ids_reach {w : Situation} {n : Nat} {o : Operation}
    (hn : w.operations[n]? = some o) (x : Disk × Phase) (id : String) :
    ((w.reach n o x).operations.flatMap Operation.ids).count id + o.ids.count id =
      (w.operations.flatMap Operation.ids).count id +
        (Operation.ids { o with phase := x.2 }).count id :=
  count_flatMap_set hn _ id

/-- An operation that ends keeps no ids. -/
theorem Situation.count_ids_ended {w : Situation} {n : Nat} {o : Operation}
    (hn : w.operations[n]? = some o) {x : Disk × Phase} (hx : x.2.work? = none) (id : String) :
    ((w.reach n o x).operations.flatMap Operation.ids).count id + o.ids.count id =
      (w.operations.flatMap Operation.ids).count id := by
  have hcount := count_ids_reach hn x id
  have hnone : Operation.ids { o with phase := x.2 } = [] := by simp only [Operation.ids, hx]
  rwa [hnone, List.count_nil, Nat.add_zero] at hcount

namespace Service

/-- With an action, no more ids are drawn by its moves and kept for units of work than it draws. -/
theorem count_ids_advance (s : Service) (w : Situation) (a : Action) (id : String) :
    ((w.moves a).flatMap Move.ids).count id +
        ((s.advance w a).operations.flatMap Operation.ids).count id ≤
      (w.operations.flatMap Operation.ids).count id + a.ids.count id := by
  have hstep := s.advances w a
  generalize s.advance w a = w' at hstep
  cases hstep with
  | waits | idle | told => simp [Situation.moves]
  | @looked party command supply directory =>
    have hnew : Operation.ids ⟨party, command,
        .ofPlan (s.planAsking w.store directory party supply command).result⟩ = [] := by
      simp [Operation.ids]
    have hmove : Move.ids (.look party command supply directory) =
        Action.ids (.look party command supply directory) := by
      cases command <;> rfl
    simp only [List.flatMap_append, List.flatMap_singleton, hnew, List.append_nil,
      Situation.moves, hmove]
    omega
  | unready unready =>
    rw [Situation.moves_unsettled fun o u place hn hphase => absurd hphase (unready o u place hn)]
    simp
  | @entered n supply o p y operation phase _ _ =>
    have hcount := Situation.count_ids_reach operation (w.disk, .staged ⟨p, supply, y⟩) id
    have hnew : Operation.ids { o with phase := .staged ⟨p, supply, y⟩ } =
        Action.ids (.enter n supply) := rfl
    rw [hnew] at hcount
    simp only [Situation.moves, List.flatMap_nil, List.count_nil]
    omega
  | @refused n supply o p r operation _ _ _ =>
    have hcount := Situation.count_ids_ended operation (x := (w.disk, .ended (.error r))) rfl id
    simp only [Situation.moves, List.flatMap_nil, List.count_nil]
    omega
  | @drafted n o u place operation phase _ _ =>
    have hcount := Situation.count_ids_reach operation
      (⟨w.disk.store, w.disk.drafts.put place (.document u.document)⟩, .drafted u place) id
    have hsame : Operation.ids { o with phase := .drafted u place } = o.ids := by
      simp only [Operation.ids, phase, Phase.work?]
    rw [hsame] at hcount
    simp only [Situation.moves, List.flatMap_nil, List.count_nil]
    omega
  | @undrafted n fault o u r drafts operation _ _ _ _ =>
    have hcount := Situation.count_ids_ended operation
      (x := (⟨w.disk.store, drafts⟩, .ended (.error r))) rfl id
    simp only [Situation.moves, List.flatMap_nil, List.count_nil]
    omega
  | @settled n audit o u place y operation phase draft =>
    have hcount := Situation.count_ids_ended operation
      (x := (⟨w.disk.store.put place y, w.disk.drafts.erase place⟩, .ended (u.answer audit))) rfl id
    have hold : o.ids = Move.ids (.act n u.supply) := by
      simp only [Operation.ids, phase, Phase.work?, Move.ids]
    rw [Situation.moves_settled operation phase draft, List.flatMap_singleton, ← hold]
    omega
  | @unsettled n fault audit o u place operation phase lost =>
    have hcount := Situation.count_ids_ended operation (x :=
      (w.disk, .ended (.error (.notWritten (fault.getD Disk.noDraft))))) rfl id
    rw [Situation.moves_unsettled]
    · simp only [List.flatMap_nil, List.count_nil]
      omega
    · intro o' u' place' hn hphase
      cases operation.symm.trans hn
      cases phase.symm.trans hphase
      exact lost

/-- What the run of a schedule draws has been drawn by the schedule. -/
theorem count_ids_serial (s : Service) (as : List Action) (id : String) :
    ((s.serial as).flatMap Move.ids).count id +
        ((s.situation as).operations.flatMap Operation.ids).count id ≤
      (as.flatMap Action.ids).count id := by
  induction as using List.reverseRecOn with
  | nil => exact Nat.le_refl 0
  | append_singleton as a ih =>
    have hstep := s.count_ids_advance (s.situation as) a id
    rw [serial_concat, situation_concat, List.flatMap_append, List.flatMap_append,
      List.flatMap_singleton, List.count_append, List.count_append]
    omega

end Service

/-- **The run of a schedule** draws its ids if the schedule does. -/
theorem Action.Drawn.serial {as : List Action} (h : Action.Drawn as) (s : Service) :
    WorkflowRelease.Drawn (s.serial as) where
  names id hid := by
    refine h.names id (List.count_pos_iff.1 ?_)
    have hcount := s.count_ids_serial as id
    have hpos := List.count_pos_iff.2 hid
    omega
  nodup := by
    rw [List.nodup_iff_count_le_one]
    intro id
    have hcount := s.count_ids_serial as id
    have hone := List.nodup_iff_count_le_one.1 h.nodup id
    omega

/-! ## Places -/

/-- The texts under which an action asks for definitions, or founds one. -/
def Action.texts : Action → List String
  | .look _ (.create _) supply _ => [supply.definitionId]
  | .look _ command _ _ => command.target?.toList
  | _ => []

/-- The text of the lock under which a plan is carried out is one under which it was asked for. -/
theorem Planned.mem_texts {s : Service} {store : Store} {directory directory' : Directory Unread}
    {party : Party} {supply : Supply} {command : Command} {p : Plan}
    (h : Planned s store directory party supply command p) {id : String}
    (hid : Lock.ofId id ∈ p.change.locks) :
    id ∈ Action.texts (.look party command supply directory') := by
  cases h with
  | create _ drawn =>
    obtain ⟨-, hdefinition, -⟩ := Supply.fresh_eq_ok drawn
    simpa [Change.locks, Action.texts, CreateRequest.definition, hdefinition] using hid
  | _ => simpa [Change.locks, Action.texts, Command.target?] using hid

/-- What is staged is for the place to which the text of the lock leads. -/
theorem Plan.exists_lock_of_enter {store : Store} (hn : store.Neat) {p : Plan} {supply : Supply}
    {x : Staged} (h : (p.enter store supply).result = .ok x) :
    ∃ id, Lock.ofId id ∈ p.change.locks ∧
      store.folder.placeOf x.document.definition.id = store.folder.placeOf id := by
  obtain ⟨-, hstages⟩ := stages_of_enter h
  generalize x.document = e at hstages
  cases hstages with
  | @found definition _ _ _ _ creates =>
    refine ⟨definition.id, ?_, rfl⟩
    rw [creates]
    exact List.mem_cons_of_mem _ List.mem_cons_self
  | @turn id d _ target loaded turns =>
    obtain ⟨q, hq, hat, -⟩ := Store.load_eq_some_iff.1 loaded
    refine ⟨id, ?_, ?_⟩
    · cases hc : p.change with
      | create =>
        rw [hc] at target
        cases target
      | save | publish | update | remove =>
        rw [hc] at target
        cases target
        exact List.mem_cons_self
    · rw [turns.extends.id, hn.located q d hat, hq]

namespace Service

variable {s : Service} {as : List Action}

/-- A unit of work is for the place to which the text of its lock leads. -/
theorem exists_lock (h : Follows (s.situation as) (s.run (s.serial as))) {n : Nat} {o : Operation}
    {u : Work} (hn : (s.situation as).operations[n]? = some o) (hu : o.phase.work? = some u) :
    ∃ id, Lock.ofId id ∈ o.phase.locks ∧ id ∈ as.flatMap Action.texts ∧
      s.folder.placeOf u.document.definition.id = s.folder.placeOf id := by
  have hneat := s.neat_run (s.serial as)
  have hfolder := s.folder_run (s.serial as)
  rw [h.store] at hneat hfolder
  obtain ⟨id, hlock, hplace⟩ := Plan.exists_lock_of_enter hneat (h.working n o u hn hu).2
  obtain ⟨bs, supply, directory, hprefix, -, hplanned⟩ :=
    planned_situation hn (Phase.plan?_of_work hu)
  have hlook : .look o.party o.command supply directory ∈ as :=
    hprefix.subset (List.mem_append_right _ List.mem_cons_self)
  rw [hfolder] at hplace
  refine ⟨id, ?_, List.mem_flatMap.2 ⟨_, hlook, hplanned.mem_texts hlock⟩, hplace⟩
  rwa [Phase.locks, hu]

/-- Where different texts lead to different places, so do different units of work. -/
theorem nodup_places (h : Follows (s.situation as) (s.run (s.serial as)))
    (hspelled : ∀ id ∈ as.flatMap Action.texts, ∀ id' ∈ as.flatMap Action.texts, ∀ p,
      s.folder.placeOf id = .ok p → s.folder.placeOf id' = .ok p → id = id') :
    (s.situation as).places.Nodup := by
  have hfolder := s.folder_run (s.serial as)
  rw [h.store] at hfolder
  have hplace : ∀ {o : Operation} {p : Place}, (o.phase.work?.bind fun u =>
      ((s.situation as).store.placeFor u.document.definition.id).toOption) = some p →
      ∃ u, o.phase.work? = some u ∧ s.folder.placeOf u.document.definition.id = .ok p := by
    intro o p hp
    obtain ⟨u, hu, hp⟩ := Option.bind_eq_some_iff.1 hp
    have hof := (Store.placeFor_eq_ok_iff.1 (eq_ok_of_toOption hp)).1
    rw [hfolder] at hof
    exact ⟨u, hu, hof⟩
  rw [Situation.places, List.Nodup, List.pairwise_filterMap, List.pairwise_iff_getElem]
  rintro n k hn hk hlt p hp q hq rfl
  obtain ⟨u, hu, hp⟩ := hplace hp
  obtain ⟨v, hv, hq⟩ := hplace hq
  obtain ⟨id, hlock, hid, hof⟩ := exists_lock h (List.getElem?_eq_getElem hn) hu
  obtain ⟨id', hlock', hid', hof'⟩ := exists_lock h (List.getElem?_eq_getElem hk) hv
  obtain rfl := hspelled id hid id' hid' p (hof.symm.trans hp) (hof'.symm.trans hq)
  exact s.locked_situation as n k _ _ (Nat.ne_of_lt hlt) (List.getElem?_eq_getElem hn)
    (List.getElem?_eq_getElem hk) _ hlock hlock'

/-- **A schedule is orderly** if no two of the texts that are used as ids lead to the same place. -/
theorem isOrderly_of_spelled (s : Service) (as : List Action)
    (hspelled : ∀ id ∈ as.flatMap Action.texts, ∀ id' ∈ as.flatMap Action.texts, ∀ p,
      s.folder.placeOf id = .ok p → s.folder.placeOf id' = .ok p → id = id') :
    s.IsOrderly as := by
  induction as using List.reverseRecOn with
  | nil =>
    intro i _
    rw [List.take_nil]
    exact List.nodup_nil
  | append_singleton as a ih =>
    have hsubset : as.flatMap Action.texts ⊆ (as ++ [a]).flatMap Action.texts := by
      rw [List.flatMap_append]
      exact List.subset_append_left _ _
    have horderly := ih fun id hid id' hid' => hspelled id (hsubset hid) id' (hsubset hid')
    have hfollows := follows_concat horderly (follows_serial horderly) a
    exact horderly.concat (nodup_places hfollows hspelled)

/-- Where all definitions are asked for by names, schedules are orderly. -/
theorem isOrderly_of_names (s : Service) {as : List Action}
    (h : ∀ id ∈ as.flatMap Action.texts, IsName id) : s.IsOrderly as :=
  s.isOrderly_of_spelled as fun id hid id' hid' _ hp hp' =>
    (h id hid).eq_of_place (h id' hid') (hp.trans hp'.symm)

end Service

end WorkflowRelease
