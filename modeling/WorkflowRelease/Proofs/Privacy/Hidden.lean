import WorkflowRelease.Proofs.Privacy.Review
import WorkflowRelease.Proofs.Run.Reach

/-!
# Hidden definitions

Nobody learns of definitions that are hidden from them. In stores that are alike for a party, its
operations answer the same, draw the same and leave the stores alike again. Main statement:
`private_stays_hidden`. It takes for granted that hidden documents can be read back; one that
cannot is answered as unreadable to everybody (`readDefinition_of_unreadable`), and so it shows.
-/

namespace WorkflowRelease

/-! ## The same answers -/

/-- The same refusal, or the same result with stores that are alike for the party. -/
inductive SameAnswer {α : Type} (u : Party) :
    Except Refusal (Store × α) → Except Refusal (Store × α) → Prop
  | refused (r : Refusal) : SameAnswer u (.error r) (.error r)
  | done {s s' : Store} (a : α) (alike : s.Alike u s') : SameAnswer u (.ok (s, a)) (.ok (s', a))

/-- The same answer with the same trace. -/
structure Traced.Same {α : Type} (u : Party) (x x' : Traced (Store × α)) : Prop where
  answer : SameAnswer u x.result x'.result
  log : x.log = x'.log
  taken : x.taken = x'.taken

namespace Traced

variable {u : Party} {α β : Type}

@[simp] theorem refuse_bind (r : Refusal) (f : α → Traced β) : (refuse r >>= f) = refuse r := rfl

theorem Same.refuse (r : Refusal) : Same u (refuse r : Traced (Store × α)) (refuse r) :=
  ⟨.refused r, rfl, rfl⟩

/-- What follows the same computation. -/
theorem Same.of_bind {x : Traced β} {f f' : β → Traced (Store × α)}
    (h : ∀ b, x.result = .ok b → Same u (f b) (f' b)) : Same u (x >>= f) (x >>= f') := by
  obtain ⟨result, log, taken⟩ := x
  cases result with
  | error r => exact ⟨.refused r, rfl, rfl⟩
  | ok b =>
    obtain ⟨hanswer, hlog, htaken⟩ := h b rfl
    exact ⟨hanswer, congrArg (log ++ ·) hlog, congrArg (taken ++ ·) htaken⟩

/-- What follows the same answer. -/
theorem Same.bind {x x' : Traced (Store × β)} {f f' : Store × β → Traced (Store × α)}
    (h : Same u x x')
    (hf : ∀ s s' b, s.Alike u s' → Same u (f (s, b)) (f' (s', b))) :
    Same u (x >>= f) (x' >>= f') := by
  obtain ⟨result, log, taken⟩ := x
  obtain ⟨result', log', taken'⟩ := x'
  obtain ⟨hanswer, rfl, rfl⟩ := h
  cases hanswer with
  | refused r => exact ⟨.refused r, rfl, rfl⟩
  | @done s s' b alike =>
    obtain ⟨hanswer, hlog, htaken⟩ := hf s s' b alike
    exact ⟨hanswer, congrArg (log ++ ·) hlog, congrArg (taken ++ ·) htaken⟩

end Traced

/-! ## Changes -/

/-- What is hidden from the party is refused, and what is staged the party may read. -/
structure Confined (u : Party) (id : String) (f : Document → Traced Staged) : Prop where
  hidden : ∀ d, d.definition.readableBy u = false → f d = .refuse (.noDefinition id)
  kept : ∀ d x, (f d).result = .ok x → x.document.definition.readableBy u = true

namespace Store

variable {u : Party} {id : String} {s s' : Store} {f : Document → Traced Staged}

/-- What is staged for what has been looked up. -/
def onFound (id : String) (f : Document → Traced Staged) : Option Document → Traced Staged
  | none => .refuse (.noDefinition id)
  | some d => f d

theorem copy_bind (s : Store) (id : String) (f : Document → Traced Staged) :
    (s.copy id >>= f) = (.ofExcept (s.loaded id) >>= onFound id f) := by
  unfold copy
  cases s.loaded id with
  | error r => rfl
  | ok found => cases found <;> rfl

theorem onFound_filter (h : Confined u id f) (found : Option Document) :
    onFound id f (found.filter fun d => d.definition.readableBy u) = onFound id f found := by
  cases found with
  | none => rfl
  | some d =>
    cases hd : d.definition.readableBy u with
    | true => rw [Option.filter_some, if_pos hd]
    | false => simp [onFound, Option.filter_some, hd, h.hidden d hd]

/-- The same is staged in stores that are alike for the party. -/
theorem Alike.copy_bind_eq (h : s.Alike u s') (hf : Confined u id f) :
    (s.copy id >>= f) = (s'.copy id >>= f) := by
  rw [copy_bind, copy_bind]
  exact h.bind_loaded id (onFound_filter hf)

theorem copy_bind_of_not_shown (h : s.shown u id = .ok none) (hf : Confined u id f) :
    (s.copy id >>= f) = .refuse (.noDefinition id) := by
  rw [copy_bind]
  exact bind_loaded_of_not_shown h (onFound_filter hf)

theorem Alike.write {α : Type} (h : s.Alike u s') {d : Document}
    (hd : d.definition.readableBy u = true) {g : Store → Traced (Store × α)}
    (hg : ∀ s s', s.Alike u s' → Traced.Same u (g s) (g s')) :
    Traced.Same u (.ofExcept (s.write d) >>= g) (.ofExcept (s'.write d) >>= g) := by
  have hplace : s.placeFor d.definition.id = s'.placeFor d.definition.id := by
    rw [placeFor, placeFor, h.folder]
  unfold Store.write
  rw [hplace]
  cases s'.placeFor d.definition.id with
  | error r => exact .refuse r
  | ok p =>
    cases d.versions.all (·.snapshot.areWritable) with
    | true => exact hg _ _ (h.put hd p)
    | false => exact .refuse _

end Store

/-! ## Commits -/

namespace Plan

variable {u : Party} (id : String) (supply : Supply)

theorem editable_of_hidden {id : String} {d : Document} (hd : d.definition.readableBy u = false) :
    Store.editable u id (some d) = .error (.noDefinition id) := by
  rw [← Store.editable_filter, Option.filter_some, hd]
  rfl

theorem readableBy_of_owned {d : Definition} (h : u = .user d.ownerUserId) :
    d.readableBy u = true := by
  simp [Definition.readableBy, Definition.isOwnedBy, h]

theorem confined_save (w : Workflow) (changelog : Option String) :
    Confined u id (stageSave u id w changelog supply) where
  hidden d hd := by
    rw [stageSave, editable_of_hidden hd]
    rfl
  kept d x hx := readableBy_of_owned (turns_of_stageSave hx).owned

theorem confined_publish (versionId seenAt : String) (comment : Option String) :
    Confined u id (stagePublish u id versionId seenAt comment supply) where
  hidden d hd := by
    rw [stagePublish, editable_of_hidden hd]
    rfl
  kept d x hx := readableBy_of_owned (turns_of_stagePublish hx).owned

theorem confined_update (r : UpdateRequest) : Confined u id (stageUpdate u id r supply) where
  hidden d hd := by
    rw [stageUpdate, editable_of_hidden hd]
    rfl
  kept d x hx := readableBy_of_owned (turns_of_stageUpdate hx).owned

theorem confined_remove : Confined u id (stageRemove u id supply) where
  hidden d hd := by
    rw [Definition.readableBy, Bool.or_eq_false_iff] at hd
    rw [stageRemove, hd.1]
    rfl
  kept d x hx := by
    obtain ⟨ho, hretired, -⟩ := stageRemove_eq_ok hx
    have hturns : Turns u supply (.remove id) d x.document := turns_of_retired ho hretired
    exact readableBy_of_owned hturns.owned

/-- **A change of a document** goes no further than the party may. -/
theorem exists_confined {id : String} {c : Change} (hc : c.target? = some id) :
    ∃ f, Confined u id f ∧ ∀ s : Store, stage s u supply c = s.copy id >>= f := by
  cases c with
  | create definition w changelog => cases hc
  | save id w changelog =>
    cases hc
    exact ⟨_, confined_save id supply w changelog, fun _ => rfl⟩
  | publish id versionId seenAt comment =>
    cases hc
    exact ⟨_, confined_publish id supply versionId seenAt comment, fun _ => rfl⟩
  | update id r =>
    cases hc
    exact ⟨_, confined_update id supply r, fun _ => rfl⟩
  | remove id =>
    cases hc
    exact ⟨_, confined_remove id supply, fun _ => rfl⟩

variable {s s' : Store} {p : Plan}

theorem same_commit (h : s.Alike u s') {id : String} (hu : p.party = u)
    (hc : p.change.target? = some id) :
    Traced.Same u (p.commit s supply) (p.commit s' supply) := by
  subst hu
  obtain ⟨f, hf, hstage⟩ := exists_confined (u := p.party) supply hc
  have henter : p.enter s supply = p.enter s' supply := by
    rw [enter, enter, hstage, hstage, h.copy_bind_eq hf]
  rw [commit, commit, henter]
  refine .of_bind fun x hx => ?_
  obtain ⟨-, -, hx⟩ := Traced.result_bind_eq_ok_iff.1 hx
  rw [hstage] at hx
  obtain ⟨d, -, hx⟩ := Traced.result_bind_eq_ok_iff.1 hx
  exact h.write (hf.kept d x hx) fun _ _ h => ⟨.done _ h, rfl, rfl⟩

theorem commit_of_not_shown {id : String} (h : s.shown u id = .ok none) (hu : p.party = u)
    (hf : p.finding = none) (hc : p.change.target? = some id) :
    p.commit s supply = .refuse (.noDefinition id) := by
  subst hu
  obtain ⟨f, hconfined, hstage⟩ := exists_confined (u := p.party) supply hc
  rw [commit, enter, hf, hstage, Store.copy_bind_of_not_shown h hconfined]
  rfl

end Plan

/-! ## Operations -/

namespace Service

variable {u : Party} {s s' : Store}

/-- Carries out a command at once: it looks at the store, and acts on the plan. -/
def carryOut (service : Service) (s : Store) (u : Party) (supply supply' : Supply) (c : Command) :
    Traced (Store × Outcome) := do
  let plan ← service.plan s u supply c
  plan.commit s supply'

/-- A plan is the party's own, and for the definition that the command is for. -/
theorem target?_of_plan {service : Service} {supply : Supply} {c : Command} {p : Plan}
    (h : (service.plan s u supply c).result = .ok p) :
    p.party = u ∧ p.change.target? = c.target? := by
  cases planned_of_planAsking h <;> exact ⟨rfl, rfl⟩

theorem same_carryOut (service : Service) (h : s.Alike u s') (supply supply' : Supply)
    {c : Command} (hc : c.target? ≠ none) :
    Traced.Same u (service.carryOut s u supply supply' c)
      (service.carryOut s' u supply supply' c) := by
  obtain ⟨id, hid⟩ := Option.ne_none_iff_exists'.1 hc
  have hplan : service.plan s u supply c = service.plan s' u supply c :=
    h.plan_eq service supply (by rintro r rfl; cases hid)
  unfold carryOut
  rw [hplan]
  refine .of_bind fun p hp => ?_
  obtain ⟨rfl, htarget⟩ := target?_of_plan hp
  exact Plan.same_commit supply' h rfl (htarget.trans hid)

theorem carryOut_of_not_shown (service : Service) {id : String} (h : s.shown u id = .ok none)
    (supply supply' : Supply) {c : Command} (hc : c.target? = some id) :
    service.carryOut s u supply supply' c = .refuse (.noDefinition id) := by
  unfold carryOut
  cases c with
  | create r => cases hc
  | save id r =>
    cases hc
    rw [service.plan_of_not_shown h supply (.inl ⟨r, rfl⟩)]
    rfl
  | publish id r =>
    cases hc
    rw [service.plan_of_not_shown h supply (.inr ⟨r, rfl⟩)]
    rfl
  | update id r =>
    cases hc
    exact Plan.commit_of_not_shown supply' h rfl rfl rfl
  | remove id =>
    cases hc
    exact Plan.commit_of_not_shown supply' h rfl rfl rfl

end Service

/-- **Private definitions stay hidden.** In two stores that differ only in documents that are hidden
from a party, all that the party reads and lists is the same, and so is all that comes of its
commands, but for new definitions: the answer, the trace with the ids that are drawn, and what the
party sees of the stores afterwards. What is asked of a hidden definition is answered like what is
asked of one that is not there: it is refused. -/
theorem private_stays_hidden (service : Service) (u : Party) (s s' : Store) (h : s.Alike u s') :
    (∀ id, s.readDefinition u id = s'.readDefinition u id ∧
      s.listVersions u id = s'.listVersions u id ∧
      ∀ page size, s.listAudits u id page size = s'.listAudits u id page size) ∧
    (∀ q, s.list u q = s'.list u q) ∧
    (∀ c supply supply', c.target? ≠ none →
      Traced.Same u (service.carryOut s u supply supply' c)
        (service.carryOut s' u supply supply' c)) ∧
    (∀ id, (s.load id = .ok none ∨
        ∃ d, s.load id = .ok (some d) ∧ d.definition.readableBy u = false) →
      s.readDefinition u id = .refuse (.noDefinition id) ∧
      s.listVersions u id = .refuse (.noDefinition id) ∧
      (∀ page size : Int, 1 ≤ page → 1 ≤ size →
        s.listAudits u id page size = .refuse (.noDefinition id)) ∧
      ∀ c supply supply', c.target? = some id →
        service.carryOut s u supply supply' c = .refuse (.noDefinition id)) := by
  refine ⟨fun id => ?_, fun q => ?_, fun c supply supply' hc => ?_, fun id hid => ?_⟩
  · unfold Store.readDefinition Store.listVersions Store.listAudits
    rw [h.readDocument_eq]
    exact ⟨rfl, rfl, fun _ _ => rfl⟩
  · unfold Store.list
    rw [h.skipped_eq, h.matched_eq]
  · exact service.same_carryOut h supply supply' hc
  · have hshown := Store.shown_eq_none hid
    unfold Store.readDefinition Store.listVersions Store.listAudits
    rw [Store.readDocument_of_not_shown hshown]
    refine ⟨rfl, rfl, fun page size hpage hsize => ?_, fun c supply supply' hc => ?_⟩
    · simp [Traced.require, hpage, hsize]
      rfl
    · exact service.carryOut_of_not_shown hshown supply supply' hc

/-! ## A store of two users -/

namespace Sample

/-- The owner and the guest each make a definition. -/
def shared : Store :=
  (service.run [look 0 (.create request), act 0 1,
    .look guest (.create { request with workflowId := "other" }) (supply 2) directory,
    act 1 3]).store

/-- The place of the first definition. -/
def first : Place := { folder := ["data", "workflows"], name := "definition-0.json" }

end Sample

theorem private_stays_hidden_shared :
    Sample.shared.Alike Sample.guest (Sample.shared.erase Sample.first) ∧
    Sample.shared.stored.map (·.definition.id) = ["definition-0", "definition-2"] ∧
    (∀ q, Sample.shared.list Sample.guest q =
      (Sample.shared.erase Sample.first).list Sample.guest q) ∧
    Sample.shared.readDefinition Sample.guest "definition-0" =
      .refuse (.noDefinition "definition-0") := by
  have hdiscreet : Sample.shared.Discreet Sample.guest :=
    ⟨(Service.neat_run _ _).ordered, by decide +kernel⟩
  have hloaded : (Sample.shared.load "definition-0").toOption.join.any
      fun d => !d.definition.readableBy Sample.guest := by
    decide +kernel
  obtain ⟨d, hd, hhidden⟩ := (Option.any_eq_true _ _).1 hloaded
  have hd := eq_ok_of_toOption (Option.join_eq_some_iff.1 hd)
  rw [Bool.not_eq_true'] at hhidden
  obtain ⟨p, hp, hat, -⟩ := Store.load_eq_some_iff.1 hd
  have hplace : Sample.shared.folder.placeOf "definition-0" = .ok Sample.first :=
    eq_ok_of_toOption (by decide +kernel)
  obtain rfl : p = Sample.first := Except.ok.inj (hp.symm.trans hplace)
  have halike := hdiscreet.alike_erase hat hhidden
  obtain ⟨-, hlist, -, hrefused⟩ :=
    private_stays_hidden Sample.service Sample.guest Sample.shared
      (Sample.shared.erase Sample.first) halike
  exact ⟨halike, by decide +kernel, hlist, (hrefused _ (.inr ⟨d, hd, hhidden⟩)).1⟩

/-! ## What cannot be read back -/

/-- Whoever asks, a document that cannot be read back is answered as such. -/
theorem Store.readDefinition_of_unreadable {s : Store} {id : String} {p : Place} {d : Document}
    (hp : s.folder.placeOf id = .ok p) (hd : s.at? p = some (.document d))
    (hr : d.toJson.isReadable = false) (u : Party) :
    s.readDefinition u id = .refuse (.unreadable Stored.unparsable) := by
  have hload : s.load id = .error (.faulty Stored.unparsable) := by
    rw [load_of_at? hp hd, hr]
    rfl
  unfold readDefinition readDocument loaded
  rw [hload]
  rfl

namespace Sample

/-- The owner makes a definition of it. -/
def deepStore : Store :=
  (service.run [look 0 (.create { request with snapshot := some deep }), act 0 1]).store

end Sample

/-- A guest sees nothing in the store, but is told that the definition cannot be read. -/
theorem unreadable_shows :
    (∀ p, Sample.deepStore.seenAt Sample.guest p =
      Sample.service.start.store.seenAt Sample.guest p) ∧
    (Sample.deepStore.readDefinition Sample.guest "definition-0").result =
      .error (.unreadable Stored.unparsable) ∧
    (Sample.service.start.store.readDefinition Sample.guest "definition-0").result =
      .error (.noDefinition "definition-0") := by
  have hplaces : Sample.deepStore.entries.map (·.1) = [Sample.first] := by decide +kernel
  obtain ⟨d, hd, hhidden, hdeep⟩ : ∃ d ∈ Sample.deepStore.stored,
      d.definition.readableBy Sample.guest = false ∧ d.toJson.isReadable = false := by
    decide +kernel
  obtain ⟨e, hentries, hfirst⟩ := List.map_eq_singleton_iff.1 hplaces
  obtain ⟨p, hm⟩ := Store.mem_stored.1 hd
  obtain rfl : (p, .document d) = e := by simpa [hentries] using hm
  obtain rfl : p = Sample.first := hfirst
  have hat : ∀ p, Sample.deepStore.at? p =
      if Sample.first = p then some (.document d) else none := by
    intro p
    rw [Store.at?, hentries, List.lookup_cons, List.lookup_nil]
    by_cases hp : Sample.first = p
    · simp [hp]
    · simp [hp, beq_eq_false_iff_ne.2 (Ne.symm hp)]
  have hplace : Sample.deepStore.folder.placeOf "definition-0" = .ok Sample.first :=
    eq_ok_of_toOption (by decide +kernel)
  refine ⟨fun p => ?_, ?_, rfl⟩
  · rw [Store.seenAt, hat]
    split
    · simp [Option.filter_some, hhidden, Store.seenAt, Service.start]
    · rfl
  · rw [Store.readDefinition_of_unreadable hplace (by rw [hat, if_pos rfl]) hdeep]
    rfl

end WorkflowRelease
