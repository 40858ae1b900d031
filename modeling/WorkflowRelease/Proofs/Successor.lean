import WorkflowRelease.Proofs.Admission

/-!
# Drafts that go on from a publication

A publication leaves a draft with the snapshot that has just been published. To publish it next, it
takes what it took for the publication before, but that the store has changed: the version that was
published in the same place is archived. So what one publication leaves behind
(`Service.Continues`), the next one finds and leaves behind in turn (`Service.Continues.next`), by
whichever name the draft is asked for. Main statement: `ready_to_continue`, publications of the
newest draft go through one after another, unless the workflow calls a given version of its own
definition under another id. `unready_to_continue` is a run in which it does.
-/

namespace WorkflowRelease

/-! ## Rounds -/

theorem Store.put_put (s : Store) (p : Place) (x y : Stored) :
    (s.put p x).put p y = s.put p y := by
  refine congrArg (Store.mk s.folder) ?_
  show insert p y (insert p x s.entries) = insert p y s.entries
  induction s.entries with
  | nil => simp [insert]
  | cons e rest ih =>
    obtain ⟨q, z⟩ := e
    by_cases hq : q = p
    · simp [insert, hq]
    · by_cases hlt : p.name < q.name
      · simp [insert, hq, hlt]
      · simp [insert, hq, hlt, ih]

/-- How a request names a version. -/
inductive Naming where
  | byId
  | byCode
  | byBoth
deriving DecidableEq

/-- The request to publish a version. -/
def Naming.request (naming : Naming) (v : Version) (comment : Option String) : PublishRequest where
  versionId := match naming with
    | byId | byBoth => some v.id
    | byCode => none
  versionCode := match naming with
    | byCode | byBoth => some v.code
    | byId => none
  comment := comment

/-- A publication of the newest draft: how it is named, the comment, and what the look and the act
take. -/
structure Round where
  naming : Naming
  comment : Option String
  look : Supply
  act : Supply

/-- The newest draft is published once for each of the rounds, right after the publication before,
by the same party. The store and the newest draft are those before and after all of them. -/
inductive Service.Continued (s : Service) (party : Party) (id : String) :
    Store → Version → List Round → Store → Version → Prop
  | nil {store : Store} {draft : Version} : s.Continued party id store draft [] store draft
  | cons {store store' store'' : Store} {draft last : Version} {round : Round}
      {rounds : List Round} {o : PublishOutcome}
      (published : (s.carryOut store party round.look round.act
        (.publish id (round.naming.request draft round.comment))).result =
          .ok (store', .publication o))
      (rest : s.Continued party id store' o.draft rounds store'' last) :
      s.Continued party id store draft (round :: rounds) store'' last

/-- The audit tells of the round. -/
structure Round.IsToldBy (round : Round) (party : Party) (audit : Audit) : Prop where
  comment : audit.comment = round.comment
  party : party = .user audit.publishedBy
  time : round.act.time = .ok audit.publishedAt

theorem Document.findVersion?_request {d : Document} (hn : (d.versions.map (·.id)).Nodup)
    (hcodes : d.codes.Nodup) {v : Version} (hv : v ∈ d.versions) (hid : v.id ≠ "")
    (hcode : v.code ≠ "") (naming : Naming) (comment : Option String) :
    d.findVersion? (naming.request v comment).versionId (naming.request v comment).versionCode =
      some v := by
  have hisMeant (versionId versionCode : Option String) (v' : Version) :
      v'.isMeant versionId versionCode = true ↔
        (given? versionId).all (v'.id = ·) = true ∧ (given? versionCode).all (v'.code = ·) = true :=
    Bool.and_eq_true_iff
  have hgiven {s : String} (hs : s ≠ "") : given? (some s) = some s := by
    simp [given?, Option.filter, hs]
  refine findVersion?_of_unique hv ?_ fun v' hv' hmeant => ?_
  · cases naming <;> simp [Naming.request, hisMeant, given?]
  · cases naming <;>
      simp only [Naming.request, hisMeant, hgiven hid, hgiven hcode, Option.all_some,
        decide_eq_true_eq] at hmeant
    · exact List.inj_on_of_nodup_map hn hv' hv hmeant.1
    · exact List.inj_on_of_nodup_map hcodes hv' hv hmeant.2
    · exact List.inj_on_of_nodup_map hn hv' hv hmeant.1

/-! ## Ids for further operations -/

/-- The ids that an act may give to records. -/
def Supply.recordIds (supply : Supply) : List String := [supply.versionId, supply.auditId]

/-- What some acts after a run take is drawn as well: all of it are names, none of which has been
drawn in the run, or is drawn twice. -/
structure DrawnOn (ms : List Move) (supplies : List Supply) : Prop where
  names : ∀ id ∈ supplies.flatMap Supply.recordIds, IsName id
  nodup : (ms.flatMap Move.ids ++ supplies.flatMap Supply.recordIds).Nodup

theorem DrawnOn.append {ms ms' : List Move} {supply : Supply} {supplies : List Supply}
    (h : DrawnOn ms (supply :: supplies)) (hms : Drawn ms)
    (hids : ms'.flatMap Move.ids = supply.recordIds) :
    Drawn (ms ++ ms') ∧ DrawnOn (ms ++ ms') supplies := by
  obtain ⟨hnames, hnodup⟩ := h
  rw [List.flatMap_cons] at hnames hnodup
  have hflat : (ms ++ ms').flatMap Move.ids = ms.flatMap Move.ids ++ supply.recordIds := by
    rw [List.flatMap_append, hids]
  rw [← List.append_assoc, ← hflat] at hnodup
  refine ⟨⟨fun id hid => ?_, (List.nodup_append.1 hnodup).1⟩,
    ⟨fun id hid => hnames id (List.mem_append_right _ hid), hnodup⟩⟩
  rw [hflat, List.mem_append] at hid
  exact hid.elim (hms.names id) fun hid => hnames id (List.mem_append_left _ hid)

/-- A publication that is carried out at once is a part of a run. -/
theorem Service.exists_run_of_carryOut {s : Service} {ms : List Move} {party : Party} {id : String}
    {r : PublishRequest} {supply supply' : Supply} {x : Store × Outcome}
    (h : (s.carryOut (s.run ms).store party supply supply' (.publish id r)).result = .ok x) :
    ∃ ms', ms'.flatMap Move.ids = supply'.recordIds ∧ (s.run (ms ++ ms')).store = x.1 := by
  obtain ⟨plan, hplan, hcommit⟩ := Traced.result_bind_eq_ok_iff.1 h
  let directory := (s.run ms).store.directory
  have hplan : (s.planAsking (s.run ms).store directory party supply (.publish id r)).result =
      .ok plan := hplan
  have hdeed : (s.step (s.run ms) (.look party (.publish id r) supply directory)).deed
      (s.run ms).plans.length supply' = some (.ok x) := by
    rw [Scene.deed, waiting_look, if_pos rfl, hplan]
    exact congrArg some hcommit
  refine ⟨[.look party (.publish id r) supply directory] ++
    [.act (s.run ms).plans.length supply'], rfl, ?_⟩
  rw [← List.append_assoc, run_concat, run_concat]
  generalize s.step (s.run ms) (.look _ _ _ _) = w at hdeed
  simp only [step, hdeed]

/-! ## One publication after another -/

namespace Service

variable {s : Service} {ms : List Move} {store : Store} {party : Party} {id : String} {p : Place}
  {d : Document} {draft : Version} {w : Workflow} {supply supply' : Supply}
  {supplies : List Supply} {r : PublishRequest} {o : PublishOutcome} {round : Round}

/-- The place holds a document whose newest draft has a workflow that the party may publish. The
calls will do unless they are calls of a given version in that place. -/
structure Continues (s : Service) (store : Store) (party : Party) (id : String) (p : Place)
    (d : Document) (draft : Version) (w : Workflow) : Prop where
  place : s.folder.placeOf id = .ok p
  held : store.at? p = some (.document d)
  readable : d.toJson.isReadable = true
  owned : party = .user d.definition.ownerUserId
  editable : d.definition.status ≠ .archived
  newest : draft ∈ d.versions
  isDraft : draft.status = .draft
  snapshot : Workflow.ofFields draft.snapshot = .valid w
  admitted : s.Admits party w
  served : ∀ n ∈ w.callers, store.Serves party (some id) n ↔ ¬ n.CallsVersionIn s.folder p

/-- A publication that goes through has taken the time. -/
theorem exists_fresh_of_carryOut {x : Store × Outcome}
    (h : (s.carryOut store party supply supply' (.publish id r)).result = .ok x) :
    ∃ fresh, supply'.fresh = .ok fresh := by
  obtain ⟨plan, hplan, hc⟩ := Traced.result_bind_eq_ok_iff.1 h
  obtain ⟨-, e, q, hstages, -⟩ := Plan.stages_of_commit hc
  cases planned_of_planAsking hplan with
  | publish =>
    cases hstages with
    | found creates => cases creates
    | turn _ _ turns =>
      cases turns with
      | publish _ _ _ _ _ drawn _ => exact ⟨_, drawn⟩

/-- **After a publication** the place holds what it has made of the document, with a draft to
continue with. -/
theorem continues_of_carryOut (h : Drawn ms) (hdrawn : DrawnOn ms (supply' :: supplies))
    (hdone : (s.carryOut (s.run ms).store party supply supply' (.publish id r)).result =
      .ok (store, .publication o)) :
    ∃ ms' p d target d' w user now, Drawn ms' ∧ DrawnOn ms' supplies ∧
      (s.run ms').store = store ∧ (s.run ms).store.at? p = some (.document d) ∧
      d.findVersion? r.versionId r.versionCode = some target ∧
      store = (s.run ms).store.put p (.document d') ∧ party = .user user ∧
      supply'.time = .ok now ∧ d'.IsPublication d target o.draft o.audit user now r.comment ∧
      s.Continues store party id p d' o.draft w := by
  obtain ⟨d, -, -, -, hload, -⟩ := judges_of_carryOut hdone
  obtain ⟨p, hp, hd, hread⟩ := Store.load_eq_some_iff.1 hload
  have hmem := Store.mem_stored_of_at? hd
  have hn := (h.labelled_run s).nodup d hmem
  obtain ⟨n, hnumbered⟩ := s.exists_numbered hmem
  obtain ⟨fresh, hfresh⟩ := exists_fresh_of_carryOut hdone
  obtain ⟨-, -, target, structural, governance, hjudged, hvalid, hx⟩ :=
    (s.result_publish_eq_ok_iff h hd hp hnumbered party r supply hfresh _).1 hdone
  obtain ⟨howned, heditable, hmeant, hunpublished, w, hw, hadmitted, hserved⟩ :=
    judges_valid_iff.1 ⟨structural, governance, hjudged, hvalid⟩
  have ht : target ∈ d.versions := List.mem_of_find?_eq_some hmeant
  have hid : target.id ≠ "" := (h.isName_of_version hmem ht).1
  obtain ⟨ms', hids, hrun⟩ := exists_run_of_carryOut hdone
  obtain ⟨hdrawn, hrest⟩ := hdrawn.append h hids
  cases hx
  refine ⟨_, p, d, target, _, w, d.definition.ownerUserId, fresh.now, hdrawn, hrest, hrun, hd,
    hmeant, rfl, howned, (Supply.fresh_eq_ok hfresh).1,
    Document.isPublication_publish hn ht hid hnumbered.next_not_mem, ?_⟩
  exact
    { place := by rw [← s.folder_run ms, hp]
      held := by rw [Store.at?_put, if_pos rfl]
      readable := Document.isReadable_publish hread ht
      owned := howned
      editable := nofun
      newest := List.mem_append_right _ (List.mem_singleton_self _)
      isDraft := rfl
      snapshot := hw
      admitted := hadmitted
      served := fun n hn' => by
        rw [← s.folder_run ms]
        exact (hserved n hn').publish hd hn ht hid hunpublished }

namespace Continues

/-- The draft is what a request for it means. -/
theorem meant (hc : s.Continues (s.run ms).store party id p d draft w) (h : Drawn ms)
    (naming : Naming) (comment : Option String) :
    d.findVersion? (naming.request draft comment).versionId
      (naming.request draft comment).versionCode = some draft := by
  have hmem := Store.mem_stored_of_at? hc.held
  obtain ⟨n, hnumbered⟩ := s.exists_numbered hmem
  have hcodes : d.codes.Nodup := by
    rw [hnumbered.codes]
    exact VersionCode.nodup_codesUpTo n
  have hcode : draft.code ≠ "" := by
    have hcode : draft.code ∈ d.codes := List.mem_map_of_mem hc.newest
    rw [hnumbered.codes] at hcode
    obtain ⟨k, -, hk⟩ := VersionCode.mem_codesUpTo.1 hcode
    rw [hk, VersionCode.text_nth]
    exact fun hempty => by simpa using congrArg String.toList hempty
  exact Document.findVersion?_request ((h.labelled_run s).nodup d hmem) hcodes hc.newest
    (h.isName_of_version hmem hc.newest).1 hcode naming comment

/-- **The next publication** goes through iff no call is one of a given version in the place, and
there is a code left. -/
theorem exists_result_iff (hc : s.Continues (s.run ms).store party id p d draft w) (h : Drawn ms)
    {now : String} (hnow : round.act.time = .ok now) :
    (∃ store' o, (s.carryOut (s.run ms).store party round.look round.act
        (.publish id (round.naming.request draft round.comment))).result =
          .ok (store', .publication o)) ↔
      (¬ ∃ n ∈ w.callers, n.CallsVersionIn s.folder p) ∧
        d.versions.length < Nat.pow 10 VersionCode.digitLimit := by
  obtain ⟨n, hnumbered⟩ := s.exists_numbered (Store.mem_stored_of_at? hc.held)
  obtain ⟨fresh, hfresh, -⟩ := Supply.exists_fresh hnow
  have hplace : (s.run ms).store.folder.placeOf id = .ok p := by rw [s.folder_run, hc.place]
  have hresult := s.result_publish_eq_ok_iff h hc.held hplace hnumbered party
    (round.naming.request draft round.comment) round.look hfresh
  have hserved : (∀ n ∈ w.callers, (s.run ms).store.Serves party (some id) n) ↔
      ¬ ∃ n ∈ w.callers, n.CallsVersionIn s.folder p := by
    rw [not_exists]
    exact forall_congr' fun n => by
      rw [not_and]
      exact forall_congr' fun hn => hc.served n hn
  rw [hnumbered.length_versions, ← hserved]
  constructor
  · rintro ⟨store', o, hok⟩
    obtain ⟨-, hlimit, target, structural, governance, hjudged, hvalid, -⟩ := (hresult _).1 hok
    obtain ⟨-, -, hmeant, -, w', hw', -, hall⟩ :=
      judges_valid_iff.1 ⟨structural, governance, hjudged, hvalid⟩
    cases (hc.meant h _ _).symm.trans hmeant
    cases hc.snapshot.symm.trans hw'
    exact ⟨hall, hlimit⟩
  · rintro ⟨hall, hlimit⟩
    have hunpublished : draft.status ≠ .published := by
      rw [hc.isDraft]
      decide
    obtain ⟨structural, governance, hjudged, hvalid⟩ := judges_valid_iff.2
      ⟨hc.owned, hc.editable, hc.meant h round.naming round.comment, hunpublished, w, hc.snapshot,
        hc.admitted, hall⟩
    exact ⟨_, _, (hresult _).2 ⟨hc.readable, hlimit, draft, structural, governance, hjudged, hvalid,
      rfl⟩⟩

/-- What the next publication leaves behind can be gone on from in turn. -/
theorem next (hc : s.Continues (s.run ms).store party id p d draft w) (h : Drawn ms)
    (hdrawn : DrawnOn ms (round.act :: supplies))
    (hdone : (s.carryOut (s.run ms).store party round.look round.act
      (.publish id (round.naming.request draft round.comment))).result =
        .ok (store, .publication o)) :
    ∃ ms' d', Drawn ms' ∧ DrawnOn ms' supplies ∧ (s.run ms').store = store ∧
      store = (s.run ms).store.put p (.document d') ∧ d'.audits = d.audits ++ [o.audit] ∧
      round.IsToldBy party o.audit ∧ o.draft.snapshot = draft.snapshot ∧
      d'.versions.length = d.versions.length + 1 ∧ s.Continues store party id p d' o.draft w := by
  obtain ⟨ms', p', e, target, d', w', user, now, hms', hrest, hrun, he, hmeant, hstore, hparty,
    hnow, hpub, hc'⟩ := continues_of_carryOut h hdrawn hdone
  cases hc.place.symm.trans hc'.place
  cases hc.held.symm.trans he
  cases (hc.meant h _ _).symm.trans hmeant
  have hw : w = w' := by
    have hsnapshot := hc'.snapshot
    rw [hpub.continued, hc.snapshot] at hsnapshot
    exact Checked.valid.inj hsnapshot
  subst hw
  refine ⟨ms', d', hms', hrest, hrun, hstore, hpub.audits, ?_, hpub.continued, ?_, hc'⟩
  · rw [hpub.audit]
    exact ⟨rfl, hparty, hnow⟩
  · rw [hpub.versions, List.length_append, List.length_map, List.length_singleton]

/-- **All the next publications** go through iff there are none, or no call is one of a given
version in the place, and there are codes left for all of them. -/
theorem exists_continued_iff (hc : s.Continues (s.run ms).store party id p d draft w)
    (h : Drawn ms) {rounds : List Round} (hdrawn : DrawnOn ms (rounds.map Round.act))
    (htimes : ∀ round ∈ rounds, ∃ now, round.act.time = .ok now) :
    (∃ store' last, s.Continued party id (s.run ms).store draft rounds store' last) ↔
      rounds = [] ∨ (¬ ∃ n ∈ w.callers, n.CallsVersionIn s.folder p) ∧
        d.versions.length + rounds.length ≤ Nat.pow 10 VersionCode.digitLimit := by
  -- every round makes the run longer, and a new document and draft of the old ones
  induction rounds generalizing ms d draft with
  | nil => exact iff_of_true ⟨_, _, .nil⟩ (.inl rfl)
  | cons round rounds ih =>
    obtain ⟨⟨now, hnow⟩, htimes⟩ := List.forall_mem_cons.1 htimes
    have hfirst := hc.exists_result_iff h hnow
    have hrest {store' : Store} {o : PublishOutcome}
        (published : (s.carryOut (s.run ms).store party round.look round.act
          (.publish id (round.naming.request draft round.comment))).result =
            .ok (store', .publication o)) :
        (∃ store'' last, s.Continued party id store' o.draft rounds store'' last) ↔
          rounds = [] ∨ (¬ ∃ n ∈ w.callers, n.CallsVersionIn s.folder p) ∧
            d.versions.length + 1 + rounds.length ≤ Nat.pow 10 VersionCode.digitLimit := by
      obtain ⟨ms', d', hms', hdrawn', rfl, -, -, -, -, hlength, hc'⟩ := hc.next h hdrawn published
      rw [ih hc' hms' hdrawn' htimes, hlength]
    generalize Nat.pow 10 VersionCode.digitLimit = limit at hfirst hrest ⊢
    rw [List.length_cons]
    constructor
    · rintro ⟨_, _, hcontinued⟩
      cases hcontinued with
      | cons published rest =>
        obtain ⟨hcalls, hleft⟩ := hfirst.1 ⟨_, _, published⟩
        refine .inr ⟨hcalls, ?_⟩
        rcases (hrest published).1 ⟨_, _, rest⟩ with rfl | ⟨-, hleft'⟩
        · exact hleft
        · omega
    · rintro (hnil | ⟨hcalls, hleft⟩)
      · cases hnil
      · obtain ⟨_, _, published⟩ := hfirst.2 ⟨hcalls, by omega⟩
        obtain ⟨_, _, rest⟩ := (hrest published).2 (.inr ⟨hcalls, by omega⟩)
        exact ⟨_, _, .cons published rest⟩

/-- **Every publication is told of** by one audit, and nothing else is stored than the document in
the place. -/
theorem told (hc : s.Continues (s.run ms).store party id p d draft w) (h : Drawn ms)
    {rounds : List Round} (hdrawn : DrawnOn ms (rounds.map Round.act)) {last : Version}
    (hcontinued : s.Continued party id (s.run ms).store draft rounds store last) :
    ∃ d' audits, store = (s.run ms).store.put p (.document d') ∧
      d'.audits = d.audits ++ audits ∧
      List.Forall₂ (fun round audit => round.IsToldBy party audit) rounds audits ∧
      last ∈ d'.versions ∧ last.status = .draft ∧ last.snapshot = draft.snapshot := by
  induction rounds generalizing ms d draft with
  | nil =>
    cases hcontinued
    exact ⟨d, [], ((s.neat_run ms).put_eq_self hc.held).symm, by rw [List.append_nil], .nil,
      hc.newest, hc.isDraft, rfl⟩
  | cons round rounds ih =>
    cases hcontinued with
    | cons published rest =>
      obtain ⟨ms', d', hms', hdrawn', rfl, hput, haudits, htold, hdraft, -, hc'⟩ :=
        hc.next h hdrawn published
      obtain ⟨d'', audits, hstore, haudits', hall, hlast, hstatus, hsnapshot⟩ :=
        ih hc' hms' hdrawn' rest
      refine ⟨d'', _ :: audits, ?_, ?_, .cons htold hall, hlast, hstatus, hsnapshot.trans hdraft⟩
      · rw [hstore, hput, Store.put_put]
      · rw [haudits', haudits, List.append_assoc, List.singleton_append]

end Continues

end Service

/-- **The draft after a publication is ready.** In every run in which no id is drawn twice, after
every publication that goes through and however often the newest draft is published right after it,
by the same party, with nobody else moving and a clock that shows a time: all of these publications
go through, as long as there are codes left, unless a node of the workflow calls a given version of
what is in the place of the definition. Then not even the first one does. All that is stored of them
is in the document in that place, which has got one audit for each of them, and a draft that can be
published next. -/
theorem ready_to_continue (s : Service) (ms : List Move) (h : Drawn ms) (party : Party)
    (id : String) (r : PublishRequest) (supply supply' : Supply) (store : Store)
    (o : PublishOutcome)
    (hdone : (s.carryOut (s.run ms).store party supply supply' (.publish id r)).result =
      .ok (store, .publication o))
    (rounds : List Round) (hdrawn : DrawnOn ms (supply' :: rounds.map Round.act))
    (htimes : ∀ round ∈ rounds, ∃ now, round.act.time = .ok now) :
    ∃ p d w, s.folder.placeOf id = .ok p ∧ store.at? p = some (.document d) ∧
      Workflow.ofFields o.draft.snapshot = .valid w ∧
      ((∃ store' last, s.Continued party id store o.draft rounds store' last) ↔
        rounds = [] ∨ (¬ ∃ n ∈ w.callers, n.CallsVersionIn s.folder p) ∧
          d.versions.length + rounds.length ≤ Nat.pow 10 VersionCode.digitLimit) ∧
      ∀ store' last, s.Continued party id store o.draft rounds store' last →
        ∃ d' audits, store' = store.put p (.document d') ∧ d'.audits = d.audits ++ audits ∧
          List.Forall₂ (fun round audit => round.IsToldBy party audit) rounds audits ∧
          last ∈ d'.versions ∧ last.status = .draft ∧ last.snapshot = o.draft.snapshot := by
  obtain ⟨ms', p, -, -, d, w, -, -, hms', hrest, rfl, -, -, -, -, -, -, hc⟩ :=
    Service.continues_of_carryOut h hdrawn hdone
  exact ⟨p, d, w, hc.place, hc.held, hc.snapshot, hc.exists_continued_iff hms' hrest htimes,
    fun _ _ hcontinued => hc.told hms' hrest hcontinued⟩

namespace Sample

/-- Two publications of the newest draft, which name it in different ways. -/
def rounds : List Round :=
  [⟨.byId, none, supply 4, supply 5⟩, ⟨.byCode, some "again", supply 6, supply 7⟩]

/-- Nothing is called by the draft after a publication that has left two versions. -/
def isAtRest (x : Store × Outcome) : Bool :=
  match x.2, x.1.at? first with
  | .publication o, some (.document d) =>
    d.versions.length = 2 && (Workflow.ofFields o.draft.snapshot).value?.all (·.callers = [])
  | _, _ => false

end Sample

theorem ready_to_continue_twice :
    ∃ store o store' last, Sample.publishing Sample.snapshot = .ok (store, .publication o) ∧
      Sample.service.Continued Sample.owner "definition-0" store o.draft Sample.rounds store'
        last := by
  have hdone : (Sample.publishing Sample.snapshot).toOption.any Sample.isAtRest = true := by
    decide +kernel
  obtain ⟨⟨store, outcome⟩, hx, hrest⟩ := (Option.any_eq_true _ _).1 hdone
  have hx := eq_ok_of_toOption hx
  cases outcome with
  | publication o =>
    have hdrawn : DrawnOn (Sample.founding Sample.snapshot)
        (Sample.supply 3 :: Sample.rounds.map Round.act) :=
      ⟨by decide +kernel, by decide +kernel⟩
    have htimes : ∀ round ∈ Sample.rounds, ∃ now, round.act.time = .ok now := by
      intro round hround
      simp only [Sample.rounds, List.mem_cons, List.not_mem_nil, or_false] at hround
      rcases hround with rfl | rfl <;> exact ⟨_, rfl⟩
    obtain ⟨p, d, w, hp, hd, hw, hready, -⟩ := ready_to_continue Sample.service _
      (Sample.drawn_founding Sample.snapshot) Sample.owner "definition-0" _ _ _ store o hx
      Sample.rounds hdrawn htimes
    have hfirst : Sample.service.folder.placeOf "definition-0" = .ok Sample.first := by
      decide +kernel
    obtain rfl : Sample.first = p := Except.ok.inj (hfirst.symm.trans hp)
    simp only [Sample.isAtRest, hd, hw, Checked.value?, Option.all_some, Bool.and_eq_true,
      decide_eq_true_eq] at hrest
    obtain ⟨hlength, hcallers⟩ := hrest
    have hleft : d.versions.length + Sample.rounds.length ≤
        Nat.pow 10 VersionCode.digitLimit := by
      rw [hlength]
      decide +kernel
    obtain ⟨store', last, hcontinued⟩ :=
      hready.2 (.inr ⟨by rw [hcallers]; simp, hleft⟩)
    exact ⟨store, o, store', last, hx, hcontinued⟩
  | definition | version => cases hrest

namespace Sample

/-- The workflow that may be published, with a call of the first version under an id that leads to
the definition in another way. -/
def backward : Fields :=
  (snapshot.put "nodes" (.list [node "start" "manual-trigger", node "data" "data-fetch",
      node "rule" "rule-eval", node "agent" "single-agent",
      .object [("id", .text "call"), ("type", .text "subflow-call"), ("name", .text "call"),
        ("config", .object [("workflowDefinitionId", .text "./definition-0"),
          ("workflowVersionId", .text "version-1")])],
      node "gate" "risk-gate"])).put "edges"
    (.list [edge "start" "data", edge "data" "rule", edge "rule" "agent", edge "agent" "call",
      edge "call" "gate"])

/-- The owner publishes the first version, and saves a draft that calls it. -/
def looped : List Move :=
  founding snapshot ++ [look 2 (publish "1.0.0"), act 1 3,
    look 4 (.save "definition-0" { snapshot := backward }), act 2 5]

/-- What comes of it when the draft after a publication is published next. -/
def continuing (x : Store × Outcome) : Option (Except Refusal (Store × Outcome)) :=
  match x.2 with
  | .publication o => some (service.carryOut x.1 owner (supply 8) (supply 9)
      (.publish "definition-0" (Naming.byCode.request o.draft none))).result
  | _ => none

end Sample

/-- A publication may go through whose draft can never be published. -/
theorem unready_to_continue :
    Drawn Sample.looped ∧ ∃ x, (Sample.service.carryOut (Sample.service.run Sample.looped).store
        Sample.owner (Sample.supply 6) (Sample.supply 7) (Sample.publish "1.0.2")).result = .ok x ∧
      Sample.continuing x = some (.error (.rejected .publish ⟨[(Issue.broken .subflow
        "Subflow node call needs a published version version-1 of workflow ./definition-0").atNode
          "call"]⟩)) := by
  have hdone : ((Sample.service.carryOut (Sample.service.run Sample.looped).store
      Sample.owner (Sample.supply 6) (Sample.supply 7)
        (Sample.publish "1.0.2")).result).toOption.any (fun x =>
          Sample.continuing x = some (.error (.rejected .publish ⟨[(Issue.broken .subflow
        "Subflow node call needs a published version version-1 of workflow ./definition-0").atNode
          "call"]⟩))) = true := by
    decide +kernel
  obtain ⟨x, hx, hrefused⟩ := (Option.any_eq_true _ _).1 hdone
  exact ⟨⟨by decide +kernel, by decide +kernel⟩, x, eq_ok_of_toOption hx,
    of_decide_eq_true hrefused⟩

end WorkflowRelease
