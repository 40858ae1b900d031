import WorkflowRelease.Proofs.Concurrent.Endings
import WorkflowRelease.Proofs.History

/-!
# Archived definitions

Archiving is for good, as long as no two units of work for one place overlap. Every operation that
would change a document looks once more whether it is archived in its unit of work, so nothing that
had looked before gets through afterwards. Main statements: `Store.HoldsArchived.step`, a move
leaves an archived document as it is, and `archived_for_good`, what is stored of an archived
definition, and what is answered to whoever asks for a change of it. `archived_lost` has what the
owner alone may do, and a schedule in which an archived document is written over under another text
for its place.
-/

namespace WorkflowRelease

def Command.isRemoval : Command → Bool
  | .remove _ => true
  | _ => false

def Change.isRemoval : Change → Bool
  | .remove _ => true
  | _ => false

/-- A plan is for whoever has asked for it, and about the same definition as the command. -/
theorem Planned.about {s : Service} {store : Store} {directory : Directory Unread}
    {party : Party} {supply : Supply} {command : Command} {p : Plan}
    (h : Planned s store directory party supply command p) :
    p.party = party ∧ p.change.target? = command.target? ∧
      p.change.isRemoval = command.isRemoval := by
  cases h <;> exact ⟨rfl, rfl, rfl⟩

/-- What is answered to a party about an archived definition. Its owner may archive it again, to no
effect; for others it is not there. -/
def Definition.answerArchived (d : Definition) (party : Party) (id : String) (removal : Bool) :
    Except Refusal Outcome :=
  if party = .user d.ownerUserId then
    if removal then .ok (.definition d) else .error (.archived id)
  else .error (.noDefinition id)

/-! ## An archived document in its place -/

/-- Archiving does not make the text of a document harder to read. -/
theorem Document.isReadable_retire (d : Document) (now : String) :
    (d.retire now).toJson.isReadable = d.toJson.isReadable := by
  unfold retire
  split
  · rfl
  · rfl

theorem Document.status_retire (d : Document) (now : String) :
    (d.retire now).definition.status = .archived := by
  unfold retire
  split
  · assumption
  · rfl

/-- Whoever archives a document retires it, at some time. -/
theorem Plan.exists_retire {d d' : Document} {supply : Supply}
    (h : (retired d supply).result = .ok d') : ∃ now, d' = d.retire now := by
  unfold retired at h
  split at h
  · rename_i ha
    cases h
    exact ⟨"", by rw [Document.retire, if_pos ha]⟩
  · simp only [Traced.result_bind_eq_ok_iff, Traced.result_pure] at h
    obtain ⟨fresh, -, h⟩ := h
    cases h
    exact ⟨fresh.now, rfl⟩

namespace Store

/-- The place holds an archived document, which can be read and can be written again. -/
structure HoldsArchived (s : Store) (p : Place) (d : Document) : Prop where
  held : s.at? p = some (.document d)
  archived : d.definition.status = .archived
  readable : d.toJson.isReadable = true
  writable : d.versions.all (·.snapshot.areWritable) = true

theorem HoldsArchived.load {s : Store} {p : Place} {d : Document} {id : String}
    (h : s.HoldsArchived p d) (hp : s.folder.placeOf id = .ok p) : s.load id = .ok (some d) :=
  load_eq_some_iff.2 ⟨p, hp, h.held, h.readable⟩

/-- Nobody may change an archived document, and they are told so. -/
theorem editable_of_archived {d : Document} (h : d.definition.status = .archived) (party : Party)
    (id : String) : ∃ r, editable party id (some d) = .error r ∧
      d.definition.answerArchived party id false = .error r := by
  by_cases ho : party = .user d.definition.ownerUserId
  · refine ⟨.archived id, ?_, ?_⟩
    · simp [editable, Definition.isOwnedBy, ho, h]
    · simp [Definition.answerArchived, ho]
  · refine ⟨.noDefinition id, ?_, ?_⟩
    · simp [editable, Definition.isOwnedBy, ho]
    · simp [Definition.answerArchived, ho]

end Store

/-! ## A move -/

/-- A turn leaves an archived document as it is. -/
theorem Turns.eq_of_archived {party : Party} {supply : Supply} {c : Change} {d d' : Document}
    (h : Turns party supply c d d') (ha : d.definition.status = .archived) : d' = d := by
  cases h with
  | save _ editable => exact absurd ha editable
  | publish _ editable => exact absurd ha editable
  | update _ editable => exact absurd ha editable
  | remove _ editable => exact absurd ha editable
  | removed => rfl

variable {s : Service} {ms : List Move} {m : Move} {p : Place} {d e : Document} {i j k n : Nat}

/-- What arises in the place of an archived document is that document. -/
theorem Arises.eq_of_archived (h : Drawn ms) (ha : Arises (s.run ms) m p e)
    (hd : (s.run ms).store.HoldsArchived p d) : e = d := by
  cases ha with
  | founded _ waits _ _ place =>
    have hp := (s.neat_run ms).located p d hd.held
    have hne := h.place_ne_of_founding waits (Store.mem_stored_of_at? hd.held)
    rw [s.folder_run] at place hp
    exact absurd (place.trans hp.symm) hne
  | turned _ _ _ _ _ held turns _ =>
    rw [hd.held] at held
    cases held
    exact turns.eq_of_archived hd.archived

/-- **A move** leaves an archived document as it is. -/
theorem Store.HoldsArchived.step (h : Drawn ms) (s : Service) (m : Move)
    (hd : (s.run ms).store.HoldsArchived p d) : (s.step (s.run ms) m).store.HoldsArchived p d := by
  refine { hd with held := ?_ }
  rcases Service.arises_or_eq_of_step s (s.neat_run ms) m with hs | ⟨q, e, ha, hs⟩
  · rw [hs, hd.held]
  · rw [hs, Store.at?_put]
    split
    · rename_i hq
      subst hq
      rw [ha.eq_of_archived h hd]
    · exact hd.held

/-- Moves leave an archived document as it is. -/
theorem Store.HoldsArchived.moves {ms' : List Move} (h : Drawn (ms ++ ms'))
    (hd : (s.run ms).store.HoldsArchived p d) :
    (s.run (ms ++ ms')).store.HoldsArchived p d := by
  induction ms' using List.reverseRecOn with
  | nil => rwa [List.append_nil]
  | append_singleton ms' m ih =>
    rw [← List.append_assoc] at h ⊢
    rw [Service.run_concat]
    exact (ih h.of_append).step h.of_append s m

/-! ## Answers -/

namespace Plan

variable {store : Store} {party : Party} {id : String}

/-- A change that is staged for an archived document is to archive it again, by its owner; all
others are refused with the same answer. -/
theorem stage_of_archived {c : Change} (hd : store.HoldsArchived p d)
    (hp : store.folder.placeOf id = .ok p) (hc : c.target? = some id) (supply : Supply) :
    (∃ r, (stage store party supply c).result = .error r ∧
      d.definition.answerArchived party id c.isRemoval = .error r) ∨
    (∃ x, (stage store party supply c).result = .ok x ∧ x.document = d ∧ x.trail = none ∧
      d.definition.answerArchived party id c.isRemoval = .ok x.outcome) := by
  have hcopy : (store.copy id).result = .ok d := Store.copy_eq_ok_iff.2 (hd.load hp)
  obtain ⟨r, hedit, hr⟩ := Store.editable_of_archived hd.archived party id
  cases c with
  | create => cases hc
  | save =>
    cases hc
    refine .inl ⟨r, ?_, hr⟩
    rw [stage, Traced.result_bind_of_ok hcopy, stageSave, Traced.result_bind_of_error hedit]
  | publish =>
    cases hc
    refine .inl ⟨r, ?_, hr⟩
    rw [stage, Traced.result_bind_of_ok hcopy, stagePublish, Traced.result_bind_of_error hedit]
  | update =>
    cases hc
    refine .inl ⟨r, ?_, hr⟩
    rw [stage, Traced.result_bind_of_ok hcopy, stageUpdate, Traced.result_bind_of_error hedit]
  | remove =>
    cases hc
    rw [stage, Traced.result_bind_of_ok hcopy, stageRemove]
    by_cases ho : party = .user d.definition.ownerUserId
    · have howned : (Traced.require (d.definition.isOwnedBy party) (.noDefinition id)).result =
          .ok () := Traced.result_require_eq_ok_iff.2 (decide_eq_true ho)
      have hretired : (retired d supply).result = .ok d := by
        rw [retired, if_pos hd.archived, Traced.result_pure]
      rw [Traced.result_bind_of_ok howned, Traced.result_bind_of_ok hretired]
      refine .inr ⟨_, rfl, rfl, rfl, ?_⟩
      rw [Definition.answerArchived, if_pos ho]
      rfl
    · have howned : (Traced.require (d.definition.isOwnedBy party) (.noDefinition id)).result =
          .error (.noDefinition id) := by
        rw [Definition.isOwnedBy, decide_eq_false ho]
        rfl
      rw [Traced.result_bind_of_error howned]
      exact .inl ⟨_, rfl, if_neg ho⟩

end Plan

/-- A look at an archived document that ends the operation gives the same answer. -/
theorem Service.planAsking_of_archived {store : Store} {id : String} {command : Command}
    (hd : store.HoldsArchived p d) (hp : store.folder.placeOf id = .ok p)
    (hc : command.target? = some id)
    {directory : Directory Unread} {party : Party} {supply : Supply} {r : Refusal}
    (h : (s.planAsking store directory party supply command).result = .error r) :
    d.definition.answerArchived party id command.isRemoval = .error r := by
  have hload := Store.loaded_eq_ok.2 (hd.load hp)
  obtain ⟨r', hedit, hr⟩ := Store.editable_of_archived hd.archived party id
  cases command with
  | create => cases hc
  | save _ request =>
    cases hc
    simp only [planAsking, planSave, Traced.result_bind, Traced.result_ofExcept, hload,
      hedit] at h
    cases h
    exact hr
  | publish =>
    cases hc
    simp only [planAsking, planPublish, Traced.result_bind, Traced.result_ofExcept, hload,
      hedit] at h
    cases h
    exact hr
  | update => cases h
  | remove => cases h

/-! ## Schedules -/

variable {as : List Action}

/-- An orderly schedule leaves an archived document as it is. -/
theorem Store.HoldsArchived.of_le (h : Action.Drawn as) (ho : s.IsOrderly as) (hij : i ≤ j)
    (hd : (s.situation (as.take i)).store.HoldsArchived p d) :
    (s.situation (as.take j)).store.HoldsArchived p d := by
  obtain ⟨cs, hcs⟩ := List.take_prefix_take_left hij (l := as)
  have hserial := (h.take j).serial s
  rw [← Service.store_serial (ho.take i)] at hd
  rw [← Service.store_serial (ho.take j)]
  rw [← hcs, Service.serial_append] at hserial ⊢
  exact hd.moves hserial

/-- Whoever removes a definition that can be found leaves its document retired. -/
theorem Plan.retires_of_remove {store : Store} (hn : store.Neat) {plan : Plan} {id : String}
    (hc : plan.change = .remove id) {supply : Supply} {x : Staged}
    (hx : (plan.enter store supply).result = .ok x) {q : Place}
    (hq : store.placeFor x.document.definition.id = .ok q)
    (hw : x.document.versions.all (·.snapshot.areWritable) = true) :
    ∃ e now, store.load id = .ok (some e) ∧ x.document = e.retire now ∧
      plan.party = .user x.document.definition.ownerUserId ∧
      x.outcome = .definition x.document.definition ∧ store.folder.placeOf id = .ok q ∧
      (store.put q (.document x.document)).HoldsArchived q x.document := by
  obtain ⟨⟨⟩, -, hx⟩ := Traced.result_bind_eq_ok_iff.1 hx
  rw [hc] at hx
  obtain ⟨e, he, hx⟩ := Traced.result_bind_eq_ok_iff.1 hx
  have hload := Store.copy_eq_ok_iff.1 he
  obtain ⟨howner, hretired, houtcome⟩ := stageRemove_eq_ok hx
  obtain ⟨now, hretire⟩ := exists_retire hretired
  obtain ⟨p, hp, hat, hreadable⟩ := Store.load_eq_some_iff.1 hload
  have hturns : Turns plan.party supply (.remove id) e x.document :=
    turns_of_retired howner hretired
  have hext := hturns.extends
  have hplace := (Store.placeFor_eq_ok_iff.1 hq).1
  rw [hext.id, hn.located p e hat] at hplace
  cases hplace
  refine ⟨e, now, hload, hretire, ?_, houtcome, hp, ⟨?_, ?_, ?_, hw⟩⟩
  · rw [hext.owner]
    exact howner
  · rw [Store.at?_put, if_pos rfl]
  · rw [hretire]
    exact e.status_retire now
  · rw [hretire, e.isReadable_retire now]
    exact hreadable

namespace Service

/-- What an operation is answered that ends when the definition it is to change is archived: that it
is too late, or that its workflow was found wanting, or that the disk has failed. -/
def AnswersArchived (as : List Action) (k n : Nat) (d : Definition) (party : Party)
    (command : Command) (id : String) (answer : Except Refusal Outcome) : Prop :=
  answer = d.answerArchived party id command.isRemoval ∨
  (∃ stage verdict, verdict.valid = false ∧ answer = .error (.rejected stage verdict)) ∨
  ∃ message, (as[k]? = some (.draft n (some message)) ∨
    ∃ audit, as[k]? = some (.settle n (some message) audit)) ∧
    answer = .error (.notWritten message)

/-- The plan of an operation is for whoever has asked for it, and about the same definition. -/
theorem about_of_asks {party : Party} {command : Command}
    (hasks : (s.situation as).Asks n party command) {o : Operation}
    (hn : (s.situation (as.take k)).operations[n]? = some o) {plan : Plan}
    (hp : o.phase.plan? = some plan) :
    plan.party = party ∧ plan.change.target? = command.target? ∧
      plan.change.isRemoval = command.isRemoval := by
  obtain ⟨_, _, _, -, -, hplanned⟩ := planned_situation hn hp
  obtain ⟨_, hasked⟩ := asks_of_prefix (List.take_prefix k as) hn
  obtain ⟨_, hasks⟩ := hasks
  cases hasked.symm.trans hasks
  exact hplanned.about

/-- What a unit of work has staged for an archived definition is the document as it is. -/
theorem staged_of_archived (ho : s.IsOrderly as)
    (hd : (s.situation (as.take k)).store.HoldsArchived p d) {party : Party} {command : Command}
    {id : String} (hasks : (s.situation as).Asks n party command) (hc : command.target? = some id)
    (hp : (s.situation (as.take k)).store.folder.placeOf id = .ok p) {o : Operation}
    (hn : (s.situation (as.take k)).operations[n]? = some o) {u : Work}
    (hu : o.phase.work? = some u) :
    u.document = d ∧ u.staged.trail = none ∧
      d.definition.answerArchived party id command.isRemoval = .ok u.staged.outcome := by
  obtain ⟨rfl, htarget, hremoval⟩ := about_of_asks hasks hn (Phase.plan?_of_work hu)
  obtain ⟨-, henter⟩ := (follows_serial (ho.take k)).working n o u hn hu
  obtain ⟨⟨⟩, -, hstage⟩ := Traced.result_bind_eq_ok_iff.1 henter
  rw [← hremoval]
  rcases Plan.stage_of_archived hd hp (htarget.trans hc) u.supply with
    ⟨r, hr, -⟩ | ⟨x, hx, hdocument, htrail, hanswer⟩
  · cases hr.symm.trans hstage
  · cases hx.symm.trans hstage
    exact ⟨hdocument, htrail, hanswer⟩

/-- **An operation that ends** when the definition it is to change is archived leaves the store as
it is, and is answered so. -/
theorem Finishes.answer_of_archived (h : Action.Drawn as) (ho : s.IsOrderly as)
    (hd : (s.situation (as.take k)).store.HoldsArchived p d) {party : Party} {command : Command}
    {id : String} (hasks : (s.situation as).Asks n party command) (hc : command.target? = some id)
    (hp : s.folder.placeOf id = .ok p) {answer : Except Refusal Outcome}
    (he : s.Finishes as k n answer) :
    (s.situation (as.take (k + 1))).store = (s.situation (as.take k)).store ∧
      AnswersArchived as k n d.definition party command id answer := by
  rw [← folder_situation (ho.take k)] at hp
  have hlast : ∀ o, (s.situation (as.take (k + 1))).operations[n]? = some o →
      o.party = party ∧ o.command = command := by
    intro o hn
    obtain ⟨_, hasked⟩ := asks_of_prefix (List.take_prefix (k + 1) as) hn
    obtain ⟨_, hasks⟩ := hasks
    cases hasked.symm.trans hasks
    exact ⟨rfl, rfl⟩
  have hfollows := follows_serial (ho.take k)
  obtain ⟨a, ha, hending⟩ := he.ending
  generalize s.situation (as.take (k + 1)) = w' at hending hlast ⊢
  cases hending with
  | looked _ refused store operation =>
    obtain ⟨rfl, rfl⟩ := hlast _ operation
    exact ⟨store, .inl (planAsking_of_archived hd hp hc refused).symm⟩
  | @refused supply o plan r operation phase refused =>
    refine ⟨rfl, ?_⟩
    have hplan : o.phase.plan? = some plan := by rw [phase]; rfl
    obtain ⟨rfl, htarget, hremoval⟩ := about_of_asks hasks operation hplan
    by_cases hf : plan.IsAccepted
    · rw [Plan.enter, Traced.result_bind_of_ok (Plan.result_accept_eq_ok_iff.2 hf)] at refused
      rcases Plan.stage_of_archived hd hp (htarget.trans hc) supply with
        ⟨r', hr, hanswer⟩ | ⟨x, hx, -⟩
      · cases hr.symm.trans refused
        rw [hremoval] at hanswer
        exact .inl hanswer.symm
      · cases hx.symm.trans refused
    · simp only [Plan.IsAccepted, not_forall, Bool.not_eq_true] at hf
      obtain ⟨f, hfinding, hinvalid⟩ := hf
      cases (Plan.result_enter_of_invalid hfinding hinvalid _ supply).symm.trans refused
      exact .inr (.inl ⟨_, _, hinvalid, rfl⟩)
  | @undrafted fault o u r drafts operation phase _ cause =>
    refine ⟨rfl, ?_⟩
    have hu : o.phase.work? = some u := Phase.work?_of_staged phase
    obtain ⟨hdocument, -, -⟩ := staged_of_archived ho hd hasks hc hp operation hu
    rcases cause with ⟨message, rfl, rfl⟩ | hwrite
    · exact .inr (.inr ⟨message, .inl ha, rfl⟩)
    · -- an archived document can be written to its place again
      have hplace : (s.situation (as.take k)).store.placeFor d.definition.id = .ok p := by
        have hheld := hd.held
        rw [← store_serial (ho.take k)] at hheld ⊢
        exact ((h.take k).serial s).placeFor_of_at? hheld
      have hwritten : (s.situation (as.take k)).store.write d = .ok _ :=
        Store.write_eq_ok_iff.2 ⟨p, hplace, hd.writable, rfl⟩
      rw [hdocument] at hwrite
      cases hwritten.symm.trans hwrite
  | @settled audit o u q x operation phase draft =>
    have hu : o.phase.work? = some u := Phase.work?_of_drafted phase
    obtain ⟨hdocument, htrail, hanswer⟩ := staged_of_archived ho hd hasks hc hp operation hu
    obtain ⟨hq, hat, -⟩ := hfollows.drafted n o u q operation phase
    obtain rfl := Option.some.inj (hat.symm.trans draft)
    rw [hdocument] at hq ⊢
    have hlocated := (neat_situation (ho.take k)).located p d hd.held
    rw [(Store.placeFor_eq_ok_iff.1 hq).1] at hlocated
    cases hlocated
    refine ⟨((neat_situation (ho.take k)).put_eq_self hd.held), .inl ?_⟩
    rw [hanswer, Work.answer_of_trail htrail]
  | @unsettled fault audit o u q operation phase lost =>
    refine ⟨rfl, ?_⟩
    obtain ⟨-, hat, -⟩ := hfollows.drafted n o u q operation phase
    cases fault with
    | none => cases hat.symm.trans (lost rfl)
    | some message => exact .inr (.inr ⟨message, .inr ⟨audit, ha⟩, rfl⟩)

end Service

/-- **Archived definitions stay as they are.** In every schedule in which no id is drawn twice and
no two units of work for one place overlap, whatever else is going on: an operation that removes a
definition leaves its document retired, and from then on the id always leads to that document. Every
operation that is to change the definition and ends later, under whatever text for its place and no
matter whether it had looked before, leaves the store as it is. Unless its workflow was found
wanting or the disk fails, its answer is that the definition is archived, or if it is to remove it,
the definition. Parties other than the owner are told that there is none. -/
theorem archived_for_good (s : Service) (as : List Action) (h : Action.Drawn as)
    (ho : s.IsOrderly as) (j n : Nat) (party : Party) (id : String) (o : Outcome)
    (hl : (s.situation as).Asks n party (.remove id)) (he : s.Finishes as j n (.ok o)) :
    ∃ d, o = .definition d.definition ∧ d.definition.status = .archived ∧
      party = .user d.definition.ownerUserId ∧
      (∃ e now, (s.situation (as.take j)).store.load id = .ok (some e) ∧ d = e.retire now) ∧
      (∀ k > j, (s.situation (as.take k)).store.load id = .ok (some d)) ∧
      ∀ k n' party' command id' answer, (s.situation as).Asks n' party' command →
        command.target? = some id' → s.folder.placeOf id' = s.folder.placeOf id → k > j →
        s.Finishes as k n' answer →
        (s.situation (as.take (k + 1))).store = (s.situation (as.take k)).store ∧
          Service.AnswersArchived as k n' d.definition party' command id' answer := by
  obtain ⟨op, u, q, hop, hu, houtcome, henter, hq, hwritable, hput⟩ := he.written ho
  obtain ⟨rfl, htarget, hremoval⟩ := Service.about_of_asks hl hop (Phase.plan?_of_work hu)
  have hchange : u.plan.change = .remove id := by
    cases hc : u.plan.change <;> rw [hc] at htarget hremoval <;> cases htarget <;> cases hremoval
    rfl
  obtain ⟨e, now, hload, hretire, howner, hdefinition, hplace, hheld⟩ :=
    Plan.retires_of_remove (Service.neat_situation (ho.take j)) hchange henter hq hwritable
  have hlater : ∀ k > j, (s.situation (as.take k)).store.HoldsArchived q u.document := by
    intro k hk
    rw [← Work.document, ← hput] at hheld
    exact hheld.of_le h ho hk
  rw [Service.folder_situation (ho.take j)] at hplace
  refine ⟨u.document, houtcome.symm.trans hdefinition, hheld.archived, howner,
    ⟨e, now, hload, hretire⟩, ?_, ?_⟩
  · intro k hk
    refine (hlater k hk).load ?_
    rwa [Service.folder_situation (ho.take k)]
  · intro k n' party' command id' answer hasks hc hid hk hends
    exact hends.answer_of_archived h ho (hlater k hk) hasks hc (hid.trans hplace)

namespace Sample

/-- A definition is removed between the looks of a publication, of a save and of an update and their
units of work, and then once more. -/
def removing : List Action :=
  [look 0 (.create request), act 0 1, look 2 (publish "1.0.0"),
    look 3 (.save "definition-0" { snapshot }), look 4 (.update "definition-0" { name := "New" }),
    look 5 (.remove "definition-0"), act 4 6, act 1 7, act 2 8, act 3 9,
    look 10 (.remove "definition-0"), act 5 11].flatMap Move.actions

end Sample

theorem archived_for_good_late :
    Action.Drawn Sample.removing ∧ Sample.service.IsOrderly Sample.removing ∧
    ∃ d : Document, d.definition.status = .archived ∧
      Sample.service.Finishes Sample.removing 11 1 (.error (.archived "definition-0")) ∧
      Sample.service.Finishes Sample.removing 14 2 (.error (.archived "definition-0")) ∧
      Sample.service.Finishes Sample.removing 17 3 (.error (.archived "definition-0")) ∧
      Sample.service.Finishes Sample.removing 23 5 (.ok (.definition d.definition)) ∧
      (Sample.service.situation (Sample.removing.take 24)).store.load "definition-0" =
        .ok (some d) := by
  have hdrawn : Action.Drawn Sample.removing := ⟨by decide +kernel, by decide +kernel⟩
  have horderly : Sample.service.IsOrderly Sample.removing := Sample.service.isOrderly_actions _
  have hasks : ∀ n ∈ [4, 5], (Sample.service.situation Sample.removing).operations[n]?.map
      (fun o => (o.party, o.command)) = some (Sample.owner, .remove "definition-0") := by
    decide +kernel
  have hended : ∀ e ∈ [(10, 4), (23, 5)],
      (Sample.service.situation (Sample.removing.take e.1)).answer? e.2 = none ∧
      (((Sample.service.situation (Sample.removing.take (e.1 + 1))).answer? e.2).bind
        Except.toOption).isSome = true := by
    decide +kernel
  have hlate : ∀ e ∈ [(11, 1), (14, 2), (17, 3)],
      (Sample.service.situation (Sample.removing.take e.1)).answer? e.2 = none ∧
      (Sample.service.situation (Sample.removing.take (e.1 + 1))).answer? e.2 =
        some (.error (.archived "definition-0")) := by
    decide +kernel
  have hremoval : ∀ n ∈ [4, 5], (Sample.service.situation Sample.removing).Asks n Sample.owner
      (.remove "definition-0") := by
    intro n hn
    obtain ⟨⟨_, _, phase⟩, ho, hparty⟩ := Option.map_eq_some_iff.1 (hasks n hn)
    cases hparty
    exact ⟨phase, ho⟩
  have hends : ∀ j n, (j, n) ∈ [(10, 4), (23, 5)] →
      ∃ o, Sample.service.Finishes Sample.removing j n (.ok o) := by
    intro j n he
    obtain ⟨hbefore, hafter⟩ := hended _ he
    obtain ⟨o, ho⟩ := Option.isSome_iff_exists.1 hafter
    obtain ⟨x, hx, ho⟩ := Option.bind_eq_some_iff.1 ho
    exact ⟨o, hbefore, eq_ok_of_toOption ho ▸ hx⟩
  obtain ⟨o, ho⟩ := hends 10 4 (by decide)
  obtain ⟨o', ho'⟩ := hends 23 5 (by decide)
  obtain ⟨d, -, hd, howner, -, hload, hafter⟩ := archived_for_good Sample.service Sample.removing
    hdrawn horderly 10 4 Sample.owner "definition-0" o (hremoval 4 (by decide)) ho
  obtain ⟨-, hanswer⟩ := hafter 23 5 Sample.owner _ "definition-0" (.ok o') (hremoval 5 (by decide))
    rfl rfl (by decide) ho'
  have hsame : Except.ok o' = d.definition.answerArchived Sample.owner "definition-0" true := by
    rcases hanswer with h | ⟨_, _, -, h⟩ | ⟨_, -, h⟩
    · exact h
    · cases h
    · cases h
  rw [Definition.answerArchived, if_pos howner, if_pos rfl] at hsame
  exact ⟨hdrawn, horderly, d, hd, hlate (11, 1) (by decide), hlate (14, 2) (by decide),
    hlate (17, 3) (by decide), hsame ▸ ho', hload 24 (by decide)⟩

namespace Sample

/-- A definition is removed by its owner, and then by somebody else. -/
def removingTwice : List Action :=
  [look 0 (.create request), act 0 1, look 2 (.remove "definition-0"), act 1 3,
    .look guest (.remove "definition-0") (supply 4) directory, act 2 5].flatMap Move.actions

/-- While a definition is updated under another text for its place, it is removed. -/
def overwriting : List Action :=
  (founding snapshot).flatMap Move.actions ++
    [.look owner (.update "./definition-0" { name := "New" }) (supply 2) directory,
      .look owner (.remove "definition-0") (supply 3) directory,
      .enter 1 (supply 4), .enter 2 (supply 5), .draft 2 none, .settle 2 none none,
      .draft 1 none, .settle 1 none none]

end Sample

/-- Nobody but the owner may remove a definition again. And an update writes over an archived
document if its unit of work overlaps with that of the removal. -/
theorem archived_lost :
    ((((Sample.service.situation (Sample.removingTwice.take 8)).answer? 1).bind
        Except.toOption).isSome ∧
      Sample.service.Finishes Sample.removingTwice 9 2 (.error (.noDefinition "definition-0"))) ∧
    Action.Drawn Sample.overwriting ∧
      (((Sample.service.situation Sample.overwriting).answer? 2).bind Except.toOption).isSome ∧
      (Sample.service.situation (Sample.overwriting.take 10)).store.stored.map
        (·.definition.status) = [.archived] ∧
      (Sample.service.situation Sample.overwriting).store.stored.map
        (·.definition.status) = [.draft] := by
  refine ⟨⟨by decide +kernel, ?_⟩, ⟨by decide +kernel, by decide +kernel⟩, by decide +kernel,
    by decide +kernel, by decide +kernel⟩
  unfold Service.Finishes
  decide +kernel

end WorkflowRelease
