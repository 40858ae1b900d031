import WorkflowRelease.Proofs.Concurrent.Ids

/-!
# Runs as schedules

A move of a run stands for the actions of an operation that nothing comes into, so each run is that
of an orderly schedule. Main statements: `store_situation_actions` and `isOrderly_actions`.
-/

namespace WorkflowRelease

/-- The actions of a move. -/
def Move.actions : Move → List Action
  | .look party command supply directory => [.look party command supply directory]
  | .act n supply => [.enter n supply, .draft n none, .settle n none none]

/-- Nobody is in a unit of work. -/
def Situation.Idle (w : Situation) : Prop := ∀ o ∈ w.operations, o.phase.work? = none

/-! ## Where nobody works -/

namespace Situation

variable {s : Service} {w : Situation} {n : Nat} {o : Operation}

theorem Idle.isHeld (h : w.Idle) (locks : List Lock) : w.isHeld locks = false := by
  rw [isHeld_eq_false_iff]
  intro o ho lock hlock
  rw [Phase.locks, h o ho] at hlock
  cases hlock

theorem Idle.nodup (h : w.Idle) : w.places.Nodup := by
  rw [places, List.filterMap_eq_nil_iff.2 fun o ho => by rw [h o ho, Option.bind_none]]
  exact List.nodup_nil

/-- Where nobody works, one operation may get on. -/
theorem Idle.nodup_places (h : w.Idle) (n : Nat) (o : Operation) (x : Disk × Phase) :
    (w.reach n o x).places.Nodup := by
  have hnone : ∀ o' : Operation, o' ∈ w.operations → (o'.phase.work?.bind fun u =>
      ((w.reach n o x).store.placeFor u.document.definition.id).toOption) = none := by
    intro o' ho'
    rw [h o' ho', Option.bind_none]
  rw [places, List.Nodup, List.pairwise_filterMap, List.pairwise_iff_getElem]
  intro k l hk hl hlt p hp q hq
  have hne : n ≠ k ∨ n ≠ l := by omega
  simp only [reach, List.length_set] at hk hl
  rcases hne with hne | hne
  · simp only [reach, List.getElem_set_ne hne] at hp
    rw [h _ (List.getElem_mem hk)] at hp
    cases hp
  · simp only [reach, List.getElem_set_ne hne] at hq
    rw [h _ (List.getElem_mem hl)] at hq
    cases hq

theorem reach_reach (w : Situation) (n : Nat) (o : Operation) (x y : Disk × Phase) :
    (w.reach n o x).reach n { o with phase := x.2 } y = w.reach n o y := by
  simp [reach]

theorem Idle.reach (h : w.Idle) {x : Disk × Phase} (hx : x.2.work? = none) :
    (w.reach n o x).Idle := by
  intro o' ho'
  rcases List.mem_or_eq_of_mem_set ho' with ho' | rfl
  · exact h o' ho'
  · exact hx

end Situation

/-! ## An operation alone -/

namespace Service

variable {s : Service} {w : Situation} {n : Nat} {o : Operation} {u : Work} {place : Place}

theorem advance_enter {p : Plan} (hn : w.operations[n]? = some o) (hphase : o.phase = .planned p)
    (hidle : w.Idle) (supply : Supply) :
    s.advance w (.enter n supply) = w.reach n o (w.disk, w.disk.enter p supply) := by
  obtain ⟨party, command, phase⟩ := o
  cases hphase
  simp [advance, hn, hidle.isHeld]

theorem advance_draft (hn : w.operations[n]? = some o) (hphase : o.phase = .staged u)
    (fault : Option String) :
    s.advance w (.draft n fault) = w.reach n o (w.disk.draft u fault) := by
  obtain ⟨party, command, phase⟩ := o
  cases hphase
  simp [advance, hn]

theorem advance_settle (hn : w.operations[n]? = some o) (hphase : o.phase = .drafted u place)
    (fault audit : Option String) :
    s.advance w (.settle n fault audit) = w.reach n o (w.disk.settle u place fault audit) := by
  obtain ⟨party, command, phase⟩ := o
  cases hphase
  simp [advance, hn]

/-- An operation that has ended does nothing more. -/
theorem foldl_advance_of_ended (hn : ∀ o, w.operations[n]? = some o → o.phase.plan? = none)
    {as : List Action} (has : ∀ a ∈ as, a.operation? = some n) : as.foldl s.advance w = w := by
  induction as with
  | nil => rfl
  | cons a as ih =>
    have hstays : s.advance w a = w := by
      have ha := has a List.mem_cons_self
      cases a with
      | look | inquire => cases ha
      | enter | draft | settle =>
        cases ha
        simp only [advance]
        split
        · rename_i ho
          cases hn _ ho
        · rfl
    rw [List.foldl_cons, hstays]
    exact ih fun a ha => has a (List.mem_cons_of_mem _ ha)

/-- An operation that has just ended stays as it is. -/
theorem foldl_advance_reach_ended (hn : w.operations[n]? = some o) {as : List Action}
    (has : ∀ a ∈ as, a.operation? = some n) (disk : Disk) (answer : Except Refusal Outcome) :
    as.foldl s.advance (w.reach n o (disk, .ended answer)) = w.reach n o (disk, .ended answer) := by
  refine foldl_advance_of_ended (fun o' ho' => ?_) has
  rw [Situation.getElem?_reach hn, if_pos rfl, Option.some.injEq] at ho'
  subst ho'
  rfl

/-- An operation that nothing comes into makes its change at once, or is refused. -/
theorem foldl_actions {p : Plan} (hn : w.operations[n]? = some o) (hphase : o.phase = .planned p)
    (hidle : w.Idle) (supply : Supply) :
    ∃ disk answer, (Move.actions (.act n supply)).foldl s.advance w =
        w.reach n o (disk, .ended answer) ∧
      disk.store = match (p.commit w.store supply).result with
        | .ok (store, _) => store
        | .error _ => w.store := by
  simp only [Move.actions, List.foldl_cons, advance_enter hn hphase hidle]
  cases hx : (p.enter w.store supply).result with
  | error r =>
    have henter : w.disk.enter p supply = .ended (.error r) := by
      rw [Disk.enter, show (p.enter w.disk.store supply).result = .error r from hx]
    have hcommit : (p.commit w.store supply).result = .error r := by
      rw [Plan.commit, Traced.result_bind_of_error hx]
    rw [henter, hcommit]
    have hown : ∀ a ∈ [Action.draft n none, .settle n none none], a.operation? = some n := by
      simp [Action.operation?]
    exact ⟨w.disk, .error r, foldl_advance_reach_ended hn hown _ _, rfl⟩
  | ok x =>
    have henter : w.disk.enter p supply = .staged ⟨p, supply, x⟩ := by
      rw [Disk.enter, show (p.enter w.disk.store supply).result = .ok x from hx]
    have hstaged : (w.reach n o (w.disk, .staged ⟨p, supply, x⟩)).operations[n]? =
        some { o with phase := .staged ⟨p, supply, x⟩ } := by
      rw [Situation.getElem?_reach hn, if_pos rfl]
    rw [henter, advance_draft hstaged rfl, Situation.disk_reach, Situation.reach_reach]
    rcases w.disk.draft_cases ⟨p, supply, x⟩ none with
      ⟨place, -, hplace, hwritable, hdraft⟩ | ⟨r, drafts, hdraft, -, hcause, -⟩
    · have hwrite : w.store.write x.document = .ok (w.store.put place (.document x.document)) :=
        Store.write_eq_ok_iff.2 ⟨place, hplace, hwritable, rfl⟩
      have hcommit : (p.commit w.store supply).result =
          .ok (w.store.put place (.document x.document), x.outcome) :=
        Plan.result_commit_eq_ok_iff.2 ⟨x, hx, hwrite, rfl⟩
      have hdrafted : ∀ y : Disk, (w.reach n o (y, .drafted ⟨p, supply, x⟩ place)).operations[n]? =
          some { o with phase := .drafted ⟨p, supply, x⟩ place } := by
        intro y
        rw [Situation.getElem?_reach hn, if_pos rfl]
      have hat : (w.disk.drafts.put place (.document x.document)).at? place =
          some (.document x.document) := by
        rw [Store.at?_put, if_pos rfl]
      rw [hdraft, hcommit, advance_settle (hdrafted _) rfl, Situation.disk_reach,
        Situation.reach_reach]
      have hsettle := Disk.settle_cases
        { w.disk with drafts := w.disk.drafts.put place (.document x.document) }
        ⟨p, supply, x⟩ place none none
      rcases hsettle with ⟨y, -, hy, hsettle⟩ | ⟨hlost, -⟩
      · obtain rfl := Option.some.inj (hat.symm.trans hy)
        exact ⟨_, _, congrArg (w.reach n o) hsettle, rfl⟩
      · cases hat.symm.trans (hlost rfl)
    · have hcommit : (p.commit w.store supply).result = .error r := by
        rcases hcause with ⟨_, hfault, -⟩ | hwrite
        · cases hfault
        · rw [Plan.commit, Traced.result_bind_of_ok hx, Traced.result_bind_of_error]
          exact hwrite
      rw [hdraft, hcommit]
      have hown : ∀ a ∈ [Action.settle n none none], a.operation? = some n := by
        simp [Action.operation?]
      exact ⟨_, .error r, foldl_advance_reach_ended hn hown _ _, rfl⟩

end Service

/-! ## Runs -/

/-- A situation in which nobody works, and a scene that has come as far. -/
structure Rests (w : Situation) (c : Scene) : Prop where
  store : c.store = w.store
  plans : c.plans = w.operations.map (·.phase.plan?)
  idle : w.Idle

namespace Rests

variable {s : Service} {w : Situation} {c : Scene}

theorem calm (s : Service) : Rests s.calm s.start where
  store := rfl
  plans := rfl
  idle _ ho := by cases ho

theorem waiting (h : Rests w c) (n : Nat) :
    c.waiting n = w.operations[n]?.bind (·.phase.plan?) := by
  rw [Scene.waiting, h.plans, List.getElem?_map]
  cases w.operations[n]? <;> rfl

/-- **A move** and its actions lead to the same. -/
theorem step (h : Rests w c) (m : Move) : Rests (m.actions.foldl s.advance w) (s.step c m) := by
  cases m with
  | look party command supply directory =>
    refine ⟨h.store, ?_, ?_⟩
    · simp only [Service.step, Move.actions, List.foldl_cons, List.foldl_nil, Service.advance,
        h.plans, h.store, List.map_append, List.map_singleton]
      cases (s.planAsking w.store directory party supply command).result <;> rfl
    · intro o ho
      rcases List.mem_append.1 ho with ho | ho
      · exact h.idle o ho
      · rw [List.mem_singleton.1 ho, Phase.work?_ofPlan]
  | act n supply =>
    have hwaiting := h.waiting n
    cases hp : w.operations[n]?.bind (·.phase.plan?) with
    | none =>
      have hstep : s.step c (.act n supply) = c := by
        simp only [Service.step, Scene.deed, hwaiting, hp, Option.map_none]
      have hended : ∀ o, w.operations[n]? = some o → o.phase.plan? = none := by
        intro o ho
        rwa [ho, Option.bind_some] at hp
      rw [hstep, Service.foldl_advance_of_ended hended (by simp [Move.actions, Action.operation?])]
      exact h
    | some p =>
      obtain ⟨o, ho, hplan⟩ := Option.bind_eq_some_iff.1 hp
      have hphase : o.phase = .planned p := by
        have hwork := h.idle o (List.mem_of_getElem? ho)
        cases hphase : o.phase with
        | planned =>
          rw [hphase] at hplan
          cases hplan
          rfl
        | staged | drafted =>
          rw [hphase] at hwork
          cases hwork
        | ended =>
          rw [hphase] at hplan
          cases hplan
      obtain ⟨disk, answer, hactions, hstore⟩ :=
        Service.foldl_actions (s := s) ho hphase h.idle supply
      have hplans : c.plans.set n none =
          (w.reach n o (disk, .ended answer)).operations.map (·.phase.plan?) := by
        rw [h.plans, Situation.reach, List.map_set]
        rfl
      rw [hactions]
      refine ⟨?_, ?_, h.idle.reach rfl⟩
      · rw [Situation.store_reach, hstore]
        simp only [Service.step, Scene.deed, hwaiting, hp, Option.map_some, h.store]
        cases (p.commit w.store supply).result <;> rfl
      · rw [← hplans]
        simp only [Service.step, Scene.deed, hwaiting, hp, Option.map_some]
        cases (p.commit c.store supply).result <;> rfl

end Rests

namespace Service

variable {s : Service} {ms : List Move}

theorem rests_actions (s : Service) (ms : List Move) :
    Rests (s.situation (ms.flatMap Move.actions)) (s.run ms) := by
  induction ms using List.reverseRecOn with
  | nil => exact .calm s
  | append_singleton ms m ih =>
    rw [run_concat, List.flatMap_append, List.flatMap_singleton, situation, List.foldl_append]
    exact ih.step m

/-- The actions of one operation are of no concern to the others. -/
theorem foldl_own {w : Situation} {n : Nat} (s : Service) {as : List Action}
    (has : ∀ a ∈ as, a.operation? = some n) :
    as.foldl s.advance w = w ∨
      ∃ o x, w.operations[n]? = some o ∧ as.foldl s.advance w = w.reach n o x := by
  induction as using List.reverseRecOn with
  | nil => exact .inl rfl
  | append_singleton as a ih =>
    have ha := has a (List.mem_append_right _ List.mem_cons_self)
    rw [List.foldl_append, List.foldl_cons, List.foldl_nil]
    rcases ih fun a ha => has a (List.mem_append_left _ ha) with h | ⟨o, x, ho, h⟩
    · rw [h]
      exact s.advance_own w ha
    · rw [h]
      rcases s.advance_own (w.reach n o x) ha with h' | ⟨o', y, ho', h'⟩
      · exact .inr ⟨o, x, ho, h'⟩
      · rw [Situation.getElem?_reach ho, if_pos rfl, Option.some.injEq] at ho'
        subst ho'
        exact .inr ⟨o, y, ho, by rw [h', Situation.reach_reach]⟩

theorem nodup_places_own {w : Situation} {n : Nat} (s : Service) (hidle : w.Idle) {as : List Action}
    (has : ∀ a ∈ as, a.operation? = some n) : (as.foldl s.advance w).places.Nodup := by
  rcases s.foldl_own (w := w) has with h | ⟨o, x, -, h⟩
  · rw [h]
    exact hidle.nodup
  · rw [h]
    exact hidle.nodup_places n o x

/-- The actions of a run are orderly. -/
theorem isOrderly_actions (s : Service) (ms : List Move) :
    s.IsOrderly (ms.flatMap Move.actions) := by
  induction ms using List.reverseRecOn with
  | nil =>
    intro i _
    rw [List.flatMap_nil, List.take_nil]
    exact List.nodup_nil
  | append_singleton ms m ih =>
    have hrests := s.rests_actions ms
    have hrests' := s.rests_actions (ms ++ [m])
    rw [List.flatMap_append, List.flatMap_singleton] at hrests' ⊢
    cases m with
    | look => exact ih.concat hrests'.idle.nodup
    | act n supply =>
      have hown : ∀ as, (∀ a ∈ as, a.operation? = some n) →
          (s.situation (ms.flatMap Move.actions ++ as)).places.Nodup := by
        intro as has
        rw [situation, List.foldl_append]
        exact s.nodup_places_own hrests.idle has
      have hsplit : ms.flatMap Move.actions ++ Move.actions (.act n supply) =
          ms.flatMap Move.actions ++ [.enter n supply] ++ [.draft n none] ++
            [.settle n none none] := by
        simp [Move.actions]
      rw [hsplit]
      refine ((ih.concat ?_).concat ?_).concat ?_
      · exact hown _ (by simp [Action.operation?])
      · rw [List.append_assoc]
        exact hown _ (by simp [Action.operation?])
      · rw [List.append_assoc, List.append_assoc]
        exact hown _ (by simp [Action.operation?])

/-- **A run** stores what its actions store. -/
theorem store_situation_actions (s : Service) (ms : List Move) :
    (s.situation (ms.flatMap Move.actions)).store = (s.run ms).store :=
  (s.rests_actions ms).store.symm

end Service

/-- A run draws the ids that its actions draw. -/
theorem Drawn.actions {ms : List Move} (h : Drawn ms) : Action.Drawn (ms.flatMap Move.actions) := by
  have hids : (ms.flatMap Move.actions).flatMap Action.ids = ms.flatMap Move.ids := by
    rw [List.flatMap_assoc]
    refine List.flatMap_congr fun m _ => ?_
    cases m with
    | look _ command => cases command <;> rfl
    | act => rfl
  exact ⟨by rw [hids]; exact h.names, by rw [hids]; exact h.nodup⟩

end WorkflowRelease
