import WorkflowRelease.Proofs.Concurrent.Basic
import WorkflowRelease.Proofs.Run.Reach

/-!
# Serial runs

Units of work that never overlap in one place might as well be made at once. To each schedule of
actions belongs a run in which an operation acts on its plan when its draft takes its place, and an
operation that fails never does. In an orderly schedule what has been staged stays what would be
staged, since nobody else changes the document meanwhile; so the schedule and its run store the
same. Main statement: `follows_serial`.
-/

namespace WorkflowRelease

namespace Situation

/-- The moves that an action comes to. -/
def moves (w : Situation) : Action → List Move
  | .look party command supply directory => [.look party command supply directory]
  | .settle n none _ =>
    match w.operations[n]? with
    | some ⟨_, _, .drafted u place⟩ =>
      if (w.disk.drafts.at? place).isSome then [.act n u.supply] else []
    | _ => []
  | _ => []

variable {w : Situation} {n : Nat} {audit : Option String}

/-- A draft that takes its place is a move. -/
theorem moves_settled {o : Operation} {u : Work} {place : Place} {x : Stored}
    (hn : w.operations[n]? = some o) (hphase : o.phase = .drafted u place)
    (hx : w.disk.drafts.at? place = some x) :
    w.moves (.settle n none audit) = [.act n u.supply] := by
  obtain ⟨party, command, phase⟩ := o
  cases hphase
  simp [moves, hn, hx]

/-- Where no draft takes its place, there is no move. -/
theorem moves_unsettled {fault : Option String}
    (hlost : ∀ o u place, w.operations[n]? = some o → o.phase = .drafted u place →
      fault = none → w.disk.drafts.at? place = none) :
    w.moves (.settle n fault audit) = [] := by
  cases fault with
  | some message => rfl
  | none =>
    simp only [moves]
    split
    · rename_i u place hn
      rw [hlost _ u place hn rfl rfl]
      rfl
    · rfl

end Situation

namespace Service

/-- The moves that some actions come to, after a situation. -/
def serialFrom (s : Service) : Situation → List Action → List Move
  | _, [] => []
  | w, a :: as => w.moves a ++ s.serialFrom (s.advance w a) as

/-- The run that belongs to a schedule. -/
def serial (s : Service) (as : List Action) : List Move := s.serialFrom s.calm as

theorem serialFrom_append (s : Service) (w : Situation) (as as' : List Action) :
    s.serialFrom w (as ++ as') = s.serialFrom w as ++ s.serialFrom (as.foldl s.advance w) as' := by
  induction as generalizing w with
  | nil => rfl
  | cons a as ih => rw [List.cons_append, serialFrom, serialFrom, ih, List.append_assoc]; rfl

/-- The run of a longer schedule goes on from that of a shorter one. -/
theorem serial_append (s : Service) (as as' : List Action) :
    s.serial (as ++ as') = s.serial as ++ s.serialFrom (s.situation as) as' :=
  s.serialFrom_append s.calm as as'

theorem serial_concat (s : Service) (as : List Action) (a : Action) :
    s.serial (as ++ [a]) = s.serial as ++ (s.situation as).moves a := by
  rw [serial_append, serialFrom, serialFrom, List.append_nil]

variable {s : Service} {as as' : List Action}

theorem IsOrderly.of_append (h : s.IsOrderly (as ++ as')) :
    s.IsOrderly as := by
  intro i hi
  have hle : i ≤ as.length := Nat.le_of_lt_succ (List.mem_range.1 hi)
  have hplaces := h i (by simp; omega)
  rwa [List.take_append_of_le_length hle] at hplaces

theorem IsOrderly.take (h : s.IsOrderly as) (i : Nat) : s.IsOrderly (as.take i) := by
  rw [← List.take_append_drop i as] at h
  exact h.of_append

theorem IsOrderly.concat (h : s.IsOrderly as) {a : Action}
    (hplaces : (s.situation (as ++ [a])).places.Nodup) : s.IsOrderly (as ++ [a]) := by
  intro i hi
  have hle : i ≤ (as ++ [a]).length := Nat.le_of_lt_succ (List.mem_range.1 hi)
  rcases Nat.lt_or_eq_of_le hle with hlt | rfl
  · rw [List.length_append, List.length_singleton] at hlt
    rw [List.take_append_of_le_length (Nat.le_of_lt_succ hlt)]
    exact h i (List.mem_range.2 hlt)
  · rwa [List.take_length]

theorem IsOrderly.places (h : s.IsOrderly as) : (s.situation as).places.Nodup := by
  have hplaces := h as.length (by simp)
  rwa [List.take_length] at hplaces

end Service

/-! ## Staging again -/

namespace Plan

variable {store store' : Store} {p : Plan} {supply : Supply} {x : Staged}

/-- What is staged depends on the document to be changed, or on whether an id is free. -/
theorem stage_congr {party : Party} {c : Change}
    (hcopy : ∀ id, c.target? = some id → (store'.copy id).result = (store.copy id).result)
    (hfree : ∀ definition w changelog, c = .create definition w changelog →
      (store'.requireFree definition.workflowId).result =
        (store.requireFree definition.workflowId).result) :
    (stage store' party supply c).result = (stage store party supply c).result := by
  cases c with
  | create definition w changelog =>
    simp only [stage, stageCreate, Traced.result_bind, hfree definition w changelog rfl]
  | save id | publish id | update id | remove id =>
    simp only [stage, Traced.result_bind, hcopy id rfl]

/-- The plan is staged alike in both stores, which is enough to enter with it. -/
theorem enter_congr
    (hcopy : ∀ id, p.change.target? = some id → (store'.copy id).result = (store.copy id).result)
    (hfree : ∀ definition w changelog, p.change = .create definition w changelog →
      (store'.requireFree definition.workflowId).result =
        (store.requireFree definition.workflowId).result) :
    (p.enter store' supply).result = (p.enter store supply).result := by
  rw [enter, enter, Traced.result_bind, Traced.result_bind, stage_congr hcopy hfree]

/-- What another place holds does not matter to what is staged, unless it takes the id of the
workflow. -/
theorem enter_put {q : Place} {y : Stored} (hn : store.Neat)
    (hx : (p.enter store supply).result = .ok x)
    (hq : store.folder.placeOf x.document.definition.id ≠ .ok q)
    (hfree : ∀ definition w changelog, p.change = .create definition w changelog →
      store.ofWorkflowId? definition.workflowId = none →
      (store.put q y).ofWorkflowId? definition.workflowId = none) :
    (p.enter (store.put q y) supply).result = .ok x := by
  obtain ⟨-, hstages⟩ := stages_of_enter hx
  rw [enter_congr ?_ ?_, hx]
  · intro id hid
    generalize x.document = d' at hstages hq
    cases hstages with
    | found creates =>
      rw [creates] at hid
      cases hid
    | @turn id' d _ target loaded turns =>
      cases hid.symm.trans target
      obtain ⟨p', hp', hat, -⟩ := Store.load_eq_some_iff.1 loaded
      have hne : store.folder.placeOf id ≠ .ok q := by
        rw [hp', ← hn.located p' d hat, ← turns.extends.id]
        exact hq
      rw [Store.copy, Store.copy, Store.loaded, Store.loaded, Store.load_put_of_ne hne]
  · intro definition w changelog hc
    generalize x.document = d' at hstages
    cases hstages with
    | found creates _ _ free =>
      cases hc.symm.trans creates
      have hold := Store.requireFree_eq_ok_iff (u := ()).2 free
      rw [hold]
      exact Store.requireFree_eq_ok_iff.2 (hfree definition w changelog hc free)
    | turn target =>
      rw [hc] at target
      cases target

end Plan

/-- What is put in the place of a document that has been read does not take the id of another
workflow. -/
theorem Store.Neat.free_of_turned {s : Store} (hn : s.Neat) {id workflowId : String}
    {d e : Document} {q : Place} (hload : s.load id = .ok (some d)) (hext : e.Extends d)
    (hq : s.folder.placeOf e.definition.id = .ok q)
    (hfree : s.ofWorkflowId? workflowId = none) :
    (s.put q (.document e)).ofWorkflowId? workflowId = none := by
  rw [ofWorkflowId?_eq_none_iff] at hfree ⊢
  intro e' he'
  obtain ⟨hstored, hfound⟩ := (hn.put hq).mem_documents_iff.1 he'
  rcases mem_stored_put hstored with hold | rfl
  · exact hfree e' (hn.mem_documents_iff.2 ⟨hold, hfound⟩)
  · -- the document that was there was found as well
    obtain ⟨-, -, -, hread⟩ := load_eq_some_iff.1 hload
    rw [Document.isFound, Bool.and_eq_true] at hfound
    have hfound' : d.isFound s.folder = true := by
      rw [Document.isFound, hread, Bool.and_true, ← hext.id]
      exact hfound.1
    rw [hext.workflowId]
    exact hfree d (hn.mem_documents_iff.2 ⟨mem_stored_of_load hload, hfound'⟩)

/-! ## Following -/

/-- A situation and the scene of its run: they store the same, whoever waits in the one does so in
the other, what has been staged would be staged again, and what has been drafted is a draft still.
-/
structure Follows (w : Situation) (c : Scene) : Prop where
  store : c.store = w.store
  length : c.plans.length = w.operations.length
  planned : ∀ (n : Nat) (o : Operation) (p : Plan), w.operations[n]? = some o →
    o.phase = .planned p → c.waiting n = some p
  working : ∀ (n : Nat) (o : Operation) (u : Work), w.operations[n]? = some o →
    o.phase.work? = some u →
    c.waiting n = some u.plan ∧ (u.plan.enter w.store u.supply).result = .ok u.staged
  drafted : ∀ (n : Nat) (o : Operation) (u : Work) (place : Place), w.operations[n]? = some o →
    o.phase = .drafted u place →
    w.store.placeFor u.document.definition.id = .ok place ∧
      w.disk.drafts.at? place = some (.document u.document) ∧
      u.document.versions.all (·.snapshot.areWritable) = true

/-- No two units of work are for one place. -/
theorem Situation.place_ne {w : Situation} (h : w.places.Nodup) {n k : Nat} (hne : n ≠ k)
    {o o' : Operation} (hn : w.operations[n]? = some o) (hk : w.operations[k]? = some o')
    {u v : Work} (hu : o.phase.work? = some u) (hv : o'.phase.work? = some v) {p q : Place}
    (hp : w.store.placeFor u.document.definition.id = .ok p)
    (hq : w.store.placeFor v.document.definition.id = .ok q) : p ≠ q := by
  rw [places, List.Nodup, List.pairwise_filterMap, List.pairwise_iff_getElem] at h
  obtain ⟨hnlt, rfl⟩ := List.getElem?_eq_some_iff.1 hn
  obtain ⟨hklt, rfl⟩ := List.getElem?_eq_some_iff.1 hk
  rcases Nat.lt_or_gt_of_ne hne with hlt | hlt
  · exact h n k hnlt hklt hlt p (by simp [hu, hp, Except.toOption]) q
      (by simp [hv, hq, Except.toOption])
  · exact (h k n hklt hnlt hlt q (by simp [hv, hq, Except.toOption]) p
      (by simp [hu, hp, Except.toOption])).symm

namespace Follows

variable {s : Service} {w : Situation} {c : Scene} {n : Nat} {o : Operation} {x : Disk × Phase}

theorem calm (s : Service) : Follows s.calm s.start where
  store := rfl
  length := rfl
  planned n o p ho := by simp [Service.calm] at ho
  working n o u ho := by simp [Service.calm] at ho
  drafted n o u place ho := by simp [Service.calm] at ho

theorem ne_length (h : Follows w c) {k : Nat} (hk : w.operations[k]? = some o) :
    k ≠ c.plans.length := by
  rw [h.length]
  exact Nat.ne_of_lt (List.getElem?_eq_some_iff.1 hk).1

/-- An operation gets on, and nothing is stored. -/
theorem reach (h : Follows w c) (hn : w.operations[n]? = some o) (hstore : x.1.store = w.store)
    (hplanned : ∀ p, x.2 ≠ .planned p)
    (hworking : ∀ u, x.2.work? = some u → c.waiting n = some u.plan ∧
      (u.plan.enter w.store u.supply).result = .ok u.staged)
    (hdrafted : ∀ u place, x.2 = .drafted u place →
      w.store.placeFor u.document.definition.id = .ok place ∧
        x.1.drafts.at? place = some (.document u.document) ∧
        u.document.versions.all (·.snapshot.areWritable) = true)
    (hothers : ∀ k o' u place, n ≠ k → w.operations[k]? = some o' → o'.phase = .drafted u place →
      x.1.drafts.at? place = w.disk.drafts.at? place) : Follows (w.reach n o x) c where
  store := h.store.trans hstore.symm
  length := by rw [h.length, Situation.length_operations_reach]
  planned k o' p ho hphase := by
    rcases Situation.getElem?_reach_cases hn ho with ⟨rfl, rfl⟩ | ⟨-, ho⟩
    · exact absurd hphase (hplanned p)
    · exact h.planned k o' p ho hphase
  working k o' u ho hu := by
    rw [Situation.store_reach, hstore]
    rcases Situation.getElem?_reach_cases hn ho with ⟨rfl, rfl⟩ | ⟨-, ho⟩
    · exact hworking u hu
    · exact h.working k o' u ho hu
  drafted k o' u place ho hphase := by
    rw [Situation.store_reach, hstore, Situation.disk_reach]
    rcases Situation.getElem?_reach_cases hn ho with ⟨rfl, rfl⟩ | ⟨hne, ho⟩
    · exact hdrafted u place hphase
    · rw [hothers k o' u place hne ho hphase]
      exact h.drafted k o' u place ho hphase

/-- An operation that ends without anything being stored. -/
theorem ended (h : Follows w c) (hn : w.operations[n]? = some o) {drafts : Store}
    {answer : Except Refusal Outcome}
    (hothers : ∀ k o' u place, n ≠ k → w.operations[k]? = some o' → o'.phase = .drafted u place →
      drafts.at? place = w.disk.drafts.at? place) :
    Follows (w.reach n o ({ w.disk with drafts }, .ended answer)) c :=
  h.reach hn rfl (fun _ hp => by cases hp) (fun _ hu => by cases hu) (fun _ _ hd => by cases hd)
    hothers

/-- A draft in the place of one operation is none of another. -/
theorem at?_put_of_drafted (h : Follows w c) (ho : w.places.Nodup)
    (hn : w.operations[n]? = some o) {u : Work} (hu : o.phase.work? = some u) {place : Place}
    (hp : w.store.placeFor u.document.definition.id = .ok place) (y : Stored) (k : Nat)
    (o' : Operation) (v : Work) (place' : Place) (hne : n ≠ k) (hk : w.operations[k]? = some o')
    (hphase : o'.phase = .drafted v place') :
    (w.disk.drafts.put place y).at? place' = w.disk.drafts.at? place' := by
  obtain ⟨hp', -, -⟩ := h.drafted k o' v place' hk hphase
  have hv : o'.phase.work? = some v := Phase.work?_of_drafted hphase
  rw [Store.at?_put, if_neg (Situation.place_ne ho hne hn hk hu hv hp hp')]

/-- What one operation puts in its place does not matter to what another one has staged. -/
theorem enter_put (h : Follows w c) (hneat : w.store.Neat) (hl : w.Locked)
    (ho : w.places.Nodup) (hn : w.operations[n]? = some o) {u : Work} {place : Place}
    (hphase : o.phase = .drafted u place) {k : Nat} {o' : Operation} {v : Work} (hne : n ≠ k)
    (hk : w.operations[k]? = some o') (hv : o'.phase.work? = some v) :
    (v.plan.enter (w.store.put place (.document u.document)) v.supply).result =
      .ok v.staged := by
  have hu : o.phase.work? = some u := Phase.work?_of_drafted hphase
  obtain ⟨hp, -, -⟩ := h.drafted n o u place hn hphase
  obtain ⟨hof, hshort⟩ := Store.placeFor_eq_ok_iff.1 hp
  obtain ⟨-, hstages⟩ := Plan.stages_of_enter (h.working n o u hn hu).2
  refine Plan.enter_put hneat (h.working k o' v hk hv).2 ?_ ?_
  · intro hof'
    exact Situation.place_ne ho hne hn hk hu hv hp (Store.placeFor_eq_ok_iff.2 ⟨hof', hshort⟩) rfl
  · intro definition workflow changelog hcreate hfree
    -- the one of two creations would wait for the other
    have hnone : .creations ∉ u.plan.change.locks := by
      have hlock : .creations ∈ o'.phase.locks := by
        rw [Phase.locks, hv]
        show Lock.creations ∈ v.plan.change.locks
        rw [hcreate]
        exact List.mem_cons_self
      have hother := hl k n o' o hne.symm hk hn _ hlock
      rwa [Phase.locks, hu] at hother
    have hturn : ∃ id d, w.store.load id = .ok (some d) ∧ u.document.Extends d := by
      have hdocument : u.document = u.staged.document := rfl
      rw [hdocument]
      generalize u.staged.document = e at hstages
      cases hstages with
      | found creates =>
        rw [creates] at hnone
        exact absurd List.mem_cons_self hnone
      | turn _ loaded turns => exact ⟨_, _, loaded, turns.extends⟩
    obtain ⟨id, d, hload, hext⟩ := hturn
    exact hneat.free_of_turned hload hext hof hfree

/-- A draft that takes its place is what its operation writes when it acts on its plan. -/
theorem settle (h : Follows w c) (s : Service) (hneat : w.store.Neat) (hl : w.Locked)
    (ho : w.places.Nodup) (hn : w.operations[n]? = some o) {u : Work} {place : Place}
    (hphase : o.phase = .drafted u place) {y : Stored} (hy : w.disk.drafts.at? place = some y)
    (answer : Except Refusal Outcome) :
    Follows (w.reach n o (⟨w.disk.store.put place y, w.disk.drafts.erase place⟩, .ended answer))
      (s.step c (.act n u.supply)) := by
  have hu : o.phase.work? = some u := Phase.work?_of_drafted hphase
  obtain ⟨hp, hat, hwritable⟩ := h.drafted n o u place hn hphase
  obtain ⟨hwait, henter⟩ := h.working n o u hn hu
  obtain rfl : .document u.document = y := Option.some.inj (hat.symm.trans hy)
  have hcommit : (u.plan.commit c.store u.supply).result =
      .ok (w.store.put place (.document u.document), u.staged.outcome) := by
    rw [h.store]
    exact Plan.result_commit_eq_ok_iff.2
      ⟨u.staged, henter, Store.write_eq_ok_iff.2 ⟨place, hp, hwritable, rfl⟩, rfl⟩
  have hstep : s.step c (.act n u.supply) =
      ⟨w.store.put place (.document u.document), c.plans.set n none⟩ := by
    simp only [Service.step, Scene.deed, hwait, Option.map_some, hcommit]
  have hwaiting : ∀ k, n ≠ k → (s.step c (.act n u.supply)).waiting k = c.waiting k := by
    intro k hne
    rw [Service.waiting_act, if_neg (Ne.symm hne)]
  refine ⟨?_, ?_, ?_, ?_, ?_⟩
  · rw [hstep]
    rfl
  · rw [hstep, List.length_set, h.length, Situation.length_operations_reach]
  · intro k o' p hk hplanned
    rcases Situation.getElem?_reach_cases hn hk with ⟨rfl, rfl⟩ | ⟨hne, hk⟩
    · cases hplanned
    · rw [hwaiting k hne]
      exact h.planned k o' p hk hplanned
  · intro k o' v hk hv
    rcases Situation.getElem?_reach_cases hn hk with ⟨rfl, rfl⟩ | ⟨hne, hk⟩
    · cases hv
    · rw [hwaiting k hne]
      exact ⟨(h.working k o' v hk hv).1, h.enter_put hneat hl ho hn hphase hne hk hv⟩
  · intro k o' v place' hk hdrafted
    rcases Situation.getElem?_reach_cases hn hk with ⟨rfl, rfl⟩ | ⟨hne, hk⟩
    · cases hdrafted
    · obtain ⟨hp', hat', hwritable'⟩ := h.drafted k o' v place' hk hdrafted
      have hv : o'.phase.work? = some v := Phase.work?_of_drafted hdrafted
      refine ⟨hp', ?_, hwritable'⟩
      show (w.disk.drafts.erase place).at? place' = _
      rw [Store.at?_erase, if_neg (Situation.place_ne ho hne hn hk hu hv hp hp'), hat']

/-- **An action** is followed by its moves. -/
theorem advance (h : Follows w c) (s : Service) (hneat : w.store.Neat) (hl : w.Locked)
    (ho : w.places.Nodup) (a : Action) :
    Follows (s.advance w a) ((w.moves a).foldl s.step c) := by
  have hstep := s.advances w a
  generalize s.advance w a = w' at hstep
  cases hstep with
  | waits | idle => exact h
  | told => exact { h with }
  | @looked party command supply directory =>
    -- the new operation is the last one, and waits with its plan
    have hnew : ∀ k o, (w.operations ++ [⟨party, command,
        .ofPlan (s.planAsking w.store directory party supply command).result⟩])[k]? = some o →
        w.operations[k]? = some o ∨ k = c.plans.length ∧ o.phase =
          .ofPlan (s.planAsking w.store directory party supply command).result := by
      intro k o hk
      rcases Situation.getElem?_concat_cases hk with hk | ⟨rfl, rfl⟩
      · exact .inl hk
      · exact .inr ⟨h.length.symm, rfl⟩
    refine ⟨h.store, ?_, ?_, ?_, ?_⟩
    · simp [Situation.moves, Service.step, h.length]
    · intro k o p hk hplanned
      show (s.step c (.look party command supply directory)).waiting k = some p
      rw [Service.waiting_look, h.store]
      rcases hnew k o hk with hk | ⟨rfl, ho⟩
      · rw [if_neg (h.ne_length hk)]
        exact h.planned k o p hk hplanned
      · rw [if_pos rfl]
        rw [ho] at hplanned
        cases hr : (s.planAsking w.store directory party supply command).result with
        | ok p' =>
          rw [hr] at hplanned
          cases hplanned
          rfl
        | error r =>
          rw [hr] at hplanned
          cases hplanned
    · intro k o u hk hu
      rcases hnew k o hk with hk | ⟨-, ho⟩
      · obtain ⟨hwait, henter⟩ := h.working k o u hk hu
        refine ⟨?_, henter⟩
        show (s.step c (.look party command supply directory)).waiting k = some u.plan
        rw [Service.waiting_look, if_neg (h.ne_length hk), hwait]
      · rw [ho, Phase.work?_ofPlan] at hu
        cases hu
    · intro k o u place hk hdrafted
      rcases hnew k o hk with hk | ⟨-, ho⟩
      · exact h.drafted k o u place hk hdrafted
      · have hu : o.phase.work? = some u := Phase.work?_of_drafted hdrafted
        rw [ho, Phase.work?_ofPlan] at hu
        cases hu
  | unready unready =>
    rw [Situation.moves_unsettled fun o u place hn hphase => absurd hphase (unready o u place hn)]
    exact h
  | @entered n supply o p y operation phase free staged =>
    refine h.reach operation rfl (fun _ hp => by cases hp) ?_ (fun _ _ hd => by cases hd)
      fun _ _ _ _ _ _ _ => rfl
    rintro u ⟨⟩
    exact ⟨h.planned n o p operation phase, staged⟩
  | refused operation phase free refused => exact h.ended operation fun _ _ _ _ _ _ _ => rfl
  | @drafted n o u place operation phase leads writable =>
    have hu : o.phase.work? = some u := Phase.work?_of_staged phase
    refine h.reach operation rfl (fun _ hp => by cases hp) ?_ ?_
      (h.at?_put_of_drafted ho operation hu leads _)
    · rintro _ ⟨⟩
      exact h.working n o u operation hu
    · rintro _ _ ⟨⟩
      exact ⟨leads, by rw [Store.at?_put, if_pos rfl], writable⟩
  | @undrafted n fault o u r drafts operation phase _ _ left =>
    have hu : o.phase.work? = some u := Phase.work?_of_staged phase
    rcases left with rfl | ⟨place, leads, rfl⟩
    · exact h.ended operation fun _ _ _ _ _ _ _ => rfl
    · exact h.ended operation (h.at?_put_of_drafted ho operation hu leads _)
  | settled operation phase draft =>
    rw [Situation.moves_settled operation phase draft]
    exact h.settle s hneat hl ho operation phase draft _
  | @unsettled n fault audit o u place operation phase lost =>
    rw [Situation.moves_unsettled]
    · exact h.ended operation fun _ _ _ _ _ _ _ => rfl
    · intro o' u' place' hn hphase
      cases operation.symm.trans hn
      cases phase.symm.trans hphase
      exact lost

end Follows

namespace Service

variable {s : Service} {as : List Action}

/-- After an orderly schedule, one more action is followed as well. -/
theorem follows_concat (h : s.IsOrderly as)
    (hfollows : Follows (s.situation as) (s.run (s.serial as))) (a : Action) :
    Follows (s.situation (as ++ [a])) (s.run (s.serial (as ++ [a]))) := by
  have hneat := s.neat_run (s.serial as)
  rw [hfollows.store] at hneat
  rw [situation_concat, serial_concat, run, List.foldl_append]
  exact hfollows.advance s hneat (s.locked_situation as) h.places a

/-- **An orderly schedule** is followed by its run. -/
theorem follows_serial (h : s.IsOrderly as) : Follows (s.situation as) (s.run (s.serial as)) := by
  induction as using List.reverseRecOn with
  | nil => exact .calm s
  | append_singleton as a ih => exact follows_concat h.of_append (ih h.of_append) a

theorem store_serial (h : s.IsOrderly as) : (s.run (s.serial as)).store = (s.situation as).store :=
  (follows_serial h).store

theorem neat_situation (h : s.IsOrderly as) : (s.situation as).store.Neat := by
  rw [← store_serial h]
  exact s.neat_run _

theorem folder_situation (h : s.IsOrderly as) : (s.situation as).store.folder = s.folder := by
  rw [← store_serial h]
  exact s.folder_run _

end Service

end WorkflowRelease
