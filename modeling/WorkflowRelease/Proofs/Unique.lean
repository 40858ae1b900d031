import WorkflowRelease.Proofs.Archived
import WorkflowRelease.Proofs.Privacy.Hidden

/-!
# Ids of workflows

The id of a workflow is looked up twice before a definition is made for it: by the look, and once
more by the act. Only what can be read back is found. So among the documents that can be read back,
no id comes twice (`Drawn.distinct_run`), and as long as all documents of an id can be read back,
one definition is made for it at most, the first one that could be. Main statement: `created_once`.
`unreadable_created_twice` is what becomes of it when a document cannot be read back.
-/

namespace WorkflowRelease

/-! ## Looking an id up -/

variable {s : Service} {ms : List Move} {m : Move} {p : Place} {d e : Document}
  {i j k n : Nat} {workflowId : String}

theorem IsName.leadsInside {id : String} (h : IsName id) (f : Folder) :
    f.leadsInside id = true := by
  rw [Folder.leadsInside, f.placeOf_of_isName h]
  exact decide_eq_true rfl

/-- In a run, all documents that can be read back are found. -/
theorem Drawn.mem_documents_iff (h : Drawn ms) :
    d ∈ (s.run ms).store.documents ↔
      d ∈ (s.run ms).store.stored ∧ d.toJson.isReadable = true := by
  rw [(s.neat_run ms).mem_documents_iff]
  refine and_congr_right fun hd => ?_
  rw [Document.isFound, (h.isName_of_stored hd).leadsInside, Bool.true_and]

/-- In a run, an id is free iff no document that can be read back has it. -/
theorem Drawn.free_iff (h : Drawn ms) :
    (s.run ms).store.ofWorkflowId? workflowId = none ↔
      ∀ d ∈ (s.run ms).store.stored, d.toJson.isReadable = true →
        d.definition.workflowId ≠ workflowId := by
  simp only [Store.ofWorkflowId?_eq_none_iff, h.mem_documents_iff, and_imp]

/-! ## One document for an id -/

/-- No two documents that can be read back are about one workflow. -/
def Store.Distinct (s : Store) : Prop :=
  ∀ d ∈ s.stored, ∀ e ∈ s.stored, d.toJson.isReadable = true → e.toJson.isReadable = true →
    d.definition.workflowId = e.definition.workflowId → d = e

/-- What is about the same workflow as a document that arises, and was there before, is in the
place of that document. -/
theorem Arises.at_of_workflowId (h : Drawn ms) (hw : (s.run ms).store.Distinct)
    (ha : Arises (s.run ms) m p d) (he : e ∈ (s.run ms).store.stored)
    (hr : e.toJson.isReadable = true) (heq : e.definition.workflowId = d.definition.workflowId) :
    s.folder.placeOf e.definition.id = .ok p := by
  cases ha with
  | founded _ _ _ free _ => exact absurd heq (h.free_iff.1 free e he hr)
  | @turned n supply plan id d' _ _ _ _ _ loaded held turns place =>
    obtain ⟨-, -, -, hr'⟩ := Store.load_eq_some_iff.1 loaded
    have hd' := Store.mem_stored_of_at? held
    obtain rfl : e = d' := hw e he d' hd' hr hr' (heq.trans turns.extends.workflowId)
    have hplace := (s.neat_run ms).located p e held
    rwa [s.folder_run] at hplace

theorem Store.Distinct.step (h : Drawn ms) (hw : (s.run ms).store.Distinct) :
    (s.step (s.run ms) m).store.Distinct := by
  have hn := s.neat_run ms
  have hn' : (s.step (s.run ms) m).store.Neat := Service.neat_step hn
  rcases Service.arises_or_eq_of_step s hn m with hs | ⟨p, d, ha, hs⟩
  · rw [hs]
    exact hw
  · rw [hs] at hn' ⊢
    have hp : ((s.run ms).store.put p (.document d)).at? p = some (.document d) := by
      rw [Store.at?_put, if_pos rfl]
    -- whatever is about the workflow of `d` afterwards is `d`
    have hnew : ∀ e ∈ ((s.run ms).store.put p (.document d)).stored,
        e.toJson.isReadable = true → e.definition.workflowId = d.definition.workflowId → e = d := by
      intro e he hr heq
      rcases Store.mem_stored_put he with hold | rfl
      · have hplace := ha.at_of_workflowId h hw hold hr heq
        obtain ⟨q, hq, hat⟩ := hn'.mem_stored_iff.1 he
        rw [Store.folder_put, s.folder_run] at hq
        cases hplace.symm.trans hq
        cases hp.symm.trans hat
        rfl
      · rfl
    intro e he f hf hre hrf heq
    rcases Store.mem_stored_put he with hold | rfl
    · rcases Store.mem_stored_put hf with hold' | rfl
      · exact hw e hold f hold' hre hrf heq
      · exact hnew e he hre heq
    · exact (hnew f hf hrf heq.symm).symm

/-- **The documents of a run** that can be read back are about different workflows. -/
theorem Drawn.distinct_run (h : Drawn ms) (s : Service) : (s.run ms).store.Distinct := by
  induction ms using List.reverseRecOn with
  | nil => simp [Store.Distinct]
  | append_singleton ms m ih =>
    rw [Service.run_concat]
    exact (ih h.of_append).step h.of_append

/-! ## Creations -/

/-- A plan to create a definition that was found valid comes down to the second look at the id, if
its workflow can be stored. -/
theorem Plan.result_commit_of_create (store : Store) {plan : Plan} {definition : Definition}
    {w : Workflow} {changelog : Option String} {snapshot : Fields} {supply : Supply}
    {fresh : Fresh} (hplan : plan.IsAccepted) (hc : plan.change = .create definition w changelog)
    (hs : snapshotOf w = .ok snapshot) (hw : snapshot.areWritable = true)
    (hfresh : supply.fresh = .ok fresh) (hp : store.placeFor definition.id = .ok p) :
    (plan.commit store supply).result =
      if store.ofWorkflowId? definition.workflowId = none then
        .ok (store.put p (.document
          (.first definition (Version.initial definition snapshot changelog fresh))),
          .definition definition)
      else .error (.workflowIdTaken definition.workflowId) := by
  have hwrite : store.write (.first definition (Version.initial definition snapshot changelog
      fresh)) = .ok (store.put p (.document
        (.first definition (Version.initial definition snapshot changelog fresh)))) := by
    refine Store.write_eq_ok_iff.2 ⟨p, hp, ?_, rfl⟩
    show [Version.initial definition snapshot changelog fresh].all _ = true
    rw [List.all_cons, List.all_nil, Bool.and_true]
    exact hw
  rw [commit, enter, Traced.result_bind, Traced.result_bind_of_ok (result_accept_eq_ok_iff.2 hplan),
    hc, stage, stageCreate, Traced.result_bind_of_ok hs,
    Traced.result_bind_of_ok (Traced.result_take _),
    Traced.result_bind_of_ok (Traced.fresh_eq_ok.2 hfresh)]
  cases hfree : store.ofWorkflowId? definition.workflowId with
  | none =>
    rw [if_pos rfl, Traced.result_bind_of_ok (a := ()) (Store.requireFree_eq_ok_iff.2 hfree)]
    simp only [Traced.result_pure]
    rw [Traced.result_bind_of_ok hwrite, Traced.result_bind_of_ok (Traced.result_logAll _)]
    rfl
  | some f =>
    have hrequire : (store.requireFree definition.workflowId).result =
        .error (.workflowIdTaken definition.workflowId) := by
      rw [Store.requireFree, Traced.result_bind_of_ok (Traced.result_logAll _), hfree]
      rfl
    rw [if_neg (Option.some_ne_none f), Traced.result_bind_of_error hrequire]

/-- The workflow of a definition to be created has no entry that is too deep to be stored. -/
def Change.isStorable : Change → Bool
  | .create _ w _ => (Plan.snapshotOf w).toOption.any Fields.areWritable
  | _ => true

namespace Service

/-- With the move of the number, an operation looks that is to create a workflow of the id. -/
def Creates (s : Service) (ms : List Move) (i n : Nat) (workflowId : String) : Prop :=
  ∃ party r, s.Asks ms i n party (.create r) ∧ r.workflowId = workflowId

/-- With the move of the number, an operation goes through that creates a workflow of the id. -/
def Founds (s : Service) (ms : List Move) (j n : Nat) (workflowId : String) : Prop :=
  ∃ i o, s.Creates ms i n workflowId ∧ s.Ends ms j n (.ok o)

/-- With the move of the number, an operation that is to create a workflow of the id acts on what
was found valid. The workflow can be stored, and the clock shows a time. -/
def Attempts (s : Service) (ms : List Move) (j n : Nat) (workflowId : String) : Prop :=
  ∃ i supply now plan, s.Creates ms i n workflowId ∧ ms[j]? = some (.act n supply) ∧
    supply.time = .ok now ∧ (s.sceneAt ms j).waiting n = some plan ∧ plan.IsAccepted ∧
    plan.change.isStorable = true

/-- With the move of the number, an operation is told that the id is taken, and nothing is
stored. -/
def IsTurnedAway (s : Service) (ms : List Move) (j n : Nat) (workflowId : String) : Prop :=
  ∃ r : Refusal, s.Ends ms j n (.error r) ∧
    r.failure? = some (.invalid (.text ("Workflow '" ++ workflowId ++ "' already exists"))
      (.text "workflow_id")) ∧
    (s.sceneAt ms (j + 1)).store = (s.sceneAt ms j).store

/-- At every moment all documents of the id can be read back. -/
def IsLegible (s : Service) (ms : List Move) (workflowId : String) : Prop :=
  ∀ k, ∀ d ∈ (s.sceneAt ms k).store.stored, d.definition.workflowId = workflowId →
    d.toJson.isReadable = true

/-- An operation that waits to act has looked. -/
theorem exists_asks_of_waiting {plan : Plan} (h : (s.sceneAt ms j).waiting n = some plan) :
    ∃ i party command, s.Asks ms i n party command := by
  induction j with
  | zero => cases h
  | succ j ih =>
    cases hm : ms[j]? with
    | none =>
      rw [sceneAt_succ_of_none hm] at h
      exact ih h
    | some m =>
      rw [sceneAt_succ hm] at h
      rcases waiting_step h with ⟨hw, -⟩ | ⟨party, command, supply, directory, rfl, hk, -⟩
      · exact ih hw
      · exact ⟨j, party, command, supply, directory, hm, hk.symm⟩

/-- A plan to create a definition is one of an operation that was asked for it. -/
theorem exists_creates_of_waiting {plan : Plan} {definition : Definition} {w : Workflow}
    {changelog : Option String} (h : (s.sceneAt ms j).waiting n = some plan)
    (hc : plan.change = .create definition w changelog) :
    ∃ i, s.Creates ms i n definition.workflowId := by
  obtain ⟨i, party, command, hasks⟩ := exists_asks_of_waiting h
  obtain ⟨supply, directory, hm, hn⟩ := id hasks
  obtain ⟨-, hplanned⟩ := planned_of_look hm hn h
  cases hplanned with
  | @create r fresh owner w' f free drawn owned canonical examined =>
    cases hc
    exact ⟨i, party, r, hasks, rfl⟩
  | save => cases hc
  | publish => cases hc
  | update => cases hc
  | remove => cases hc

/-- The plan of an operation that is to create a workflow. -/
theorem Creates.plan (h : s.Creates ms i n workflowId) {plan : Plan}
    (hp : (s.sceneAt ms j).waiting n = some plan) :
    ∃ definition w changelog, plan.change = .create definition w changelog ∧
      definition.workflowId = workflowId := by
  obtain ⟨party, r, ⟨supply, directory, hm, hn⟩, rfl⟩ := h
  obtain ⟨-, hplanned⟩ := planned_of_look hm hn hp
  cases hplanned
  exact ⟨_, _, _, rfl, rfl⟩

/-- Every document that is stored has once been founded. -/
theorem exists_founds_of_stored (hd : d ∈ (s.sceneAt ms j).store.stored) :
    ∃ k n, k < j ∧ s.Founds ms k n d.definition.workflowId := by
  induction j generalizing d with
  | zero => cases hd
  | succ j ih =>
    have hearlier : ∀ e ∈ (s.sceneAt ms j).store.stored,
        ∃ k n, k < j + 1 ∧ s.Founds ms k n e.definition.workflowId := by
      intro e he
      obtain ⟨k, n, hk, hf⟩ := ih he
      exact ⟨k, n, Nat.lt_succ_of_lt hk, hf⟩
    cases hm : ms[j]? with
    | none =>
      rw [sceneAt_succ_of_none hm] at hd
      exact hearlier d hd
    | some m =>
      rw [sceneAt_succ hm] at hd
      rcases store_step s (s.sceneAt ms j) m with hs | ⟨n, supply, plan, o, rfl, hwait, hc⟩
      · exact hearlier d (hs ▸ hd)
      · have hends : s.Ends ms j n (.ok o) := ends_of_waiting hm hwait hc
        obtain ⟨-, e, p, hstages, -, hput⟩ := Plan.stages_of_commit hc
        rw [hput] at hd
        cases hstages with
        | found creates _ _ _ =>
          rcases Store.mem_stored_put hd with hd | rfl
          · exact hearlier d hd
          · obtain ⟨i, hi⟩ := exists_creates_of_waiting hwait creates
            exact ⟨j, n, Nat.lt_succ_self j, i, o, hi, hends⟩
        | turn _ loaded turns =>
          rcases Store.mem_stored_put hd with hd | rfl
          · exact hearlier d hd
          · rw [turns.extends.workflowId]
            exact hearlier _ (Store.mem_stored_of_load loaded)

/-- An operation that creates a workflow finds its id free, and leaves a document of it. -/
theorem Founds.act (h : s.Founds ms j n workflowId) :
    (∃ supply, ms[j]? = some (.act n supply)) ∧
    (s.sceneAt ms j).store.ofWorkflowId? workflowId = none ∧
    ∃ p d, (s.sceneAt ms (j + 1)).store.at? p = some (.document d) ∧
      d.definition.workflowId = workflowId := by
  obtain ⟨i, o, hcreates, hends⟩ := h
  obtain ⟨supply, plan, hm, hwait, hc⟩ := hends.commit
  obtain ⟨definition, w, changelog, hchange, rfl⟩ := hcreates.plan hwait
  obtain ⟨-, e, p, hstages, -, hput⟩ := Plan.stages_of_commit hc
  refine ⟨⟨supply, hm⟩, ?_⟩
  rw [hchange] at hstages
  cases hstages with
  | found creates _ _ free =>
    cases creates
    exact ⟨free, p, _, by rw [hput, Store.at?_put, if_pos rfl], rfl⟩
  | turn target => cases target

/-- An id stays taken once a workflow of it has been created. -/
theorem Founds.taken (h : s.Founds ms j n workflowId) (hms : Drawn ms)
    (hl : s.IsLegible ms workflowId) (hjk : j < k) :
    (s.sceneAt ms k).store.ofWorkflowId? workflowId ≠ none := by
  obtain ⟨-, -, p, d, hat, rfl⟩ := h.act
  obtain ⟨e, he, hext⟩ := exists_extends_of_le hms hat hjk
  have hmem := Store.mem_stored_of_at? he
  intro hfree
  exact (hms.take k).free_iff.1 hfree e hmem (hl k e hmem hext.workflowId) hext.workflowId

/-- Workflows of one id are not created twice. -/
theorem Founds.eq {j' n' : Nat} (h : s.Founds ms j n workflowId)
    (h' : s.Founds ms j' n' workflowId) (hms : Drawn ms) (hl : s.IsLegible ms workflowId) :
    j = j' ∧ n = n' := by
  obtain ⟨⟨supply, hm⟩, hfree, -⟩ := h.act
  obtain ⟨⟨supply', hm'⟩, hfree', -⟩ := h'.act
  have hj : j = j' := by
    rcases Nat.lt_trichotomy j j' with hlt | heq | hlt
    · exact absurd hfree' (h.taken hms hl hlt)
    · exact heq
    · exact absurd hfree (h'.taken hms hl hlt)
  subst hj
  rw [hm] at hm'
  cases hm'
  exact ⟨rfl, rfl⟩

/-- An operation that looks when the id is taken is turned away at once. -/
theorem Creates.turnedAway (h : s.Creates ms i n workflowId)
    (ht : (s.sceneAt ms i).store.ofWorkflowId? workflowId ≠ none) :
    s.IsTurnedAway ms i n workflowId := by
  obtain ⟨party, r, ⟨supply, directory, hm, hn⟩, rfl⟩ := h
  have hrefused : (s.planAsking (s.sceneAt ms i).store directory party supply
      (.create r)).result = .error (.workflowIdTaken r.workflowId) := by
    obtain ⟨f, hf⟩ := Option.ne_none_iff_exists'.1 ht
    rw [planAsking, planCreate, Traced.result_bind_of_ok (Traced.result_logAll _)]
    exact Traced.result_bind_of_error (by simp [hf, Traced.require]) _
  have hends : s.Ends ms i n (.error (.workflowIdTaken r.workflowId)) :=
    ⟨_, hm, hn, by rw [answer, hrefused]⟩
  exact ⟨_, hends, rfl, hends.store_of_error⟩

/-- An attempt goes through if the id is free, and otherwise is turned away. -/
theorem Attempts.founds_or (h : s.Attempts ms j n workflowId) (hms : Drawn ms) :
    ((s.sceneAt ms j).store.ofWorkflowId? workflowId = none ∧ s.Founds ms j n workflowId) ∨
    ((s.sceneAt ms j).store.ofWorkflowId? workflowId ≠ none ∧
      s.IsTurnedAway ms j n workflowId) := by
  obtain ⟨i, supply, now, plan, hcreates, hm, hnow, hwait, hplan, hstorable⟩ := h
  obtain ⟨definition, w, changelog, hchange, rfl⟩ := hcreates.plan hwait
  rw [hchange] at hstorable
  obtain ⟨snapshot, hsnapshot, hwritable⟩ := (Option.any_eq_true _ _).1 hstorable
  have hfresh : supply.fresh =
      .ok ⟨now, supply.definitionId, supply.versionId, supply.auditId⟩ := by
    rw [Supply.fresh, hnow]
    rfl
  have hfounding : (s.sceneAt ms j).founding n = some definition :=
    Scene.founding_eq_some_iff.2 ⟨plan, w, changelog, hwait, hchange⟩
  have hname : IsName definition.id :=
    (hms.take j).names _ ((s.apart_sceneAt draws_id hms.nodup j).founding n definition hfounding)
  have hcommit := Plan.result_commit_of_create (s.sceneAt ms j).store hplan hchange
    (eq_ok_of_toOption hsnapshot) hwritable hfresh (Store.placeFor_of_isName _ hname)
  by_cases hfree : (s.sceneAt ms j).store.ofWorkflowId? definition.workflowId = none
  · rw [if_pos hfree] at hcommit
    exact .inl ⟨hfree, i, .definition definition, hcreates, ends_of_waiting hm hwait hcommit⟩
  · rw [if_neg hfree] at hcommit
    have hends : s.Ends ms j n (.error (.workflowIdTaken definition.workflowId)) :=
      ends_of_waiting hm hwait hcommit
    exact .inr ⟨hfree, _, hends, rfl, hends.store_of_error⟩

end Service

/-- **A workflow is created once.** In every run in which no id is drawn twice, whatever else is
going on, no two stored documents that can be read back are about one workflow. And for each id of a
workflow, as long as all documents of it can be read back: at most one operation creates a workflow
of the id. Of those that act on what was found valid and can be stored, the first one does; each one
that acts or looks later is told that the id is taken, and leaves the store as it is. -/
theorem created_once (s : Service) (ms : List Move) (h : Drawn ms) :
    (∀ d ∈ (s.run ms).store.stored, ∀ e ∈ (s.run ms).store.stored,
      d.toJson.isReadable = true → e.toJson.isReadable = true →
      d.definition.workflowId = e.definition.workflowId → d = e) ∧
    ∀ workflowId, s.IsLegible ms workflowId →
      (∀ j j' n n', s.Founds ms j n workflowId → s.Founds ms j' n' workflowId →
        j = j' ∧ n = n') ∧
      (∀ j n, s.Attempts ms j n workflowId → s.Founds ms j n workflowId ∨
        s.IsTurnedAway ms j n workflowId ∧ ∃ j' n', j' < j ∧ s.Founds ms j' n' workflowId) ∧
      (∀ i n, s.Creates ms i n workflowId →
        (∃ j' n', j' < i ∧ s.Founds ms j' n' workflowId) → s.IsTurnedAway ms i n workflowId) := by
  refine ⟨h.distinct_run s, fun workflowId hl => ⟨?_, ?_, ?_⟩⟩
  · exact fun j j' n n' hf hf' => hf.eq hf' h hl
  · intro j n hattempt
    rcases hattempt.founds_or h with ⟨-, hf⟩ | ⟨htaken, haway⟩
    · exact .inl hf
    · refine .inr ⟨haway, ?_⟩
      -- a document of the id is in the way
      rw [Service.sceneAt, ne_eq, (h.take j).free_iff] at htaken
      push Not at htaken
      obtain ⟨d, hd, -, rfl⟩ := htaken
      exact Service.exists_founds_of_stored hd
  · rintro i n hcreates ⟨j', n', hlt, hf⟩
    exact hcreates.turnedAway (hf.taken h hl hlt)

namespace Sample

/-- Two operations that create a workflow of one id look before either one acts, and the second one
acts first. A third one looks later. -/
def creatingTwice : List Move :=
  [look 0 (.create request), look 1 (.create request), act 1 2, act 0 3, look 4 (.create request)]

/-- What is stored of a workflow whose documents are small can be read back. -/
theorem isLegible_twice : service.IsLegible creatingTwice "linear" := by
  have hlegible : ∀ k ∈ List.range 6, ∀ d ∈ (service.sceneAt creatingTwice k).store.stored,
      d.toJson.isReadable = true := by
    decide +kernel
  intro k d hd _
  rcases Nat.lt_or_ge k 6 with hk | hk
  · exact hlegible k (List.mem_range.2 hk) d hd
  · have hend : creatingTwice.take k = creatingTwice.take 5 :=
      (List.take_of_length_le (Nat.le_trans (by decide) hk)).trans rfl
    rw [Service.sceneAt, hend] at hd
    exact hlegible 5 (by decide) d hd

end Sample

theorem created_once_of_two :
    Drawn Sample.creatingTwice ∧ Sample.service.Founds Sample.creatingTwice 2 1 "linear" ∧
      Sample.service.IsTurnedAway Sample.creatingTwice 3 0 "linear" ∧
      Sample.service.IsTurnedAway Sample.creatingTwice 4 2 "linear" := by
  have hdrawn : Drawn Sample.creatingTwice := ⟨by decide +kernel, by decide +kernel⟩
  have hdone : ((Sample.service.answer (Sample.service.sceneAt Sample.creatingTwice 2)
      (Sample.act 1 2)).bind Except.toOption).isSome = true := by
    decide +kernel
  obtain ⟨o, ho⟩ := Option.isSome_iff_exists.1 hdone
  obtain ⟨x, hx, ho⟩ := Option.bind_eq_some_iff.1 ho
  have hends : Sample.service.Ends Sample.creatingTwice 2 1 (.ok o) :=
    ⟨Sample.act 1 2, rfl, rfl, eq_ok_of_toOption ho ▸ hx⟩
  have hfounds : Sample.service.Founds Sample.creatingTwice 2 1 "linear" :=
    ⟨1, o, ⟨_, Sample.request, ⟨_, _, rfl, by decide +kernel⟩, rfl⟩, hends⟩
  have hready : ((Sample.service.sceneAt Sample.creatingTwice 3).waiting 0).any
      (fun plan => plan.IsAccepted && plan.change.isStorable) = true := by
    decide +kernel
  obtain ⟨plan, hwait, hplan⟩ := (Option.any_eq_true _ _).1 hready
  rw [Bool.and_eq_true, decide_eq_true_eq] at hplan
  have hattempt : Sample.service.Attempts Sample.creatingTwice 3 0 "linear" :=
    ⟨0, Sample.supply 3, _, plan, ⟨_, Sample.request, ⟨_, _, rfl, rfl⟩, rfl⟩, rfl, rfl, hwait,
      hplan⟩
  have hcreates : Sample.service.Creates Sample.creatingTwice 4 2 "linear" :=
    ⟨_, Sample.request, ⟨_, _, rfl, by decide +kernel⟩, rfl⟩
  obtain ⟨-, honce⟩ := created_once Sample.service Sample.creatingTwice hdrawn
  obtain ⟨hone, hact, hlook⟩ := honce "linear" Sample.isLegible_twice
  refine ⟨hdrawn, hfounds, ?_, hlook 4 2 hcreates ⟨2, 1, by decide, hfounds⟩⟩
  rcases hact 3 0 hattempt with hf | ⟨haway, -⟩
  · exact absurd (hone 3 2 0 1 hf hfounds).1 (by decide)
  · exact haway

/-- A document that cannot be read back is not found, so another definition is made for its
workflow. -/
theorem unreadable_created_twice :
    let create : Command := .create { Sample.request with snapshot := some Sample.deep }
    let ms := [Sample.look 0 create, Sample.act 0 1, Sample.look 2 create, Sample.act 1 3]
    Drawn ms ∧ (Sample.service.run ms).store.stored.map
      (fun d => (d.definition.id, d.definition.workflowId)) =
      [("definition-0", "linear"), ("definition-2", "linear")] := by
  exact ⟨⟨by decide +kernel, by decide +kernel⟩, by decide +kernel⟩

end WorkflowRelease
