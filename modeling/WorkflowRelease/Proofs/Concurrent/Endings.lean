import WorkflowRelease.Proofs.Concurrent.Serial

/-!
# Endings

The ways in which an operation ends, with all that the action has done, and the look with which it
began. Main statements: `Finishes.ending`, `Finishes.written` and `planned_of_looked`.
-/

namespace WorkflowRelease

/-- The operation of the number is one of the party, to carry out the command. -/
def Situation.Asks (w : Situation) (n : Nat) (party : Party) (command : Command) : Prop :=
  ∃ phase, w.operations[n]? = some ⟨party, command, phase⟩

/-- With an action, an operation ends with an answer. -/
inductive Ending (s : Service) (w : Situation) (n : Nat) :
    Action → Situation → Except Refusal Outcome → Prop
  | looked {party : Party} {command : Command} {supply : Supply} {directory : Directory Unread}
      {r : Refusal} {w' : Situation} (length : w.operations.length = n)
      (refused : (s.planAsking w.store directory party supply command).result = .error r)
      (store : w'.store = w.store)
      (operation : w'.operations[n]? = some ⟨party, command, .ended (.error r)⟩) :
      Ending s w n (.look party command supply directory) w' (.error r)
  | refused {supply : Supply} {o : Operation} {p : Plan} {r : Refusal}
      (operation : w.operations[n]? = some o) (phase : o.phase = .planned p)
      (refused : (p.enter w.store supply).result = .error r) :
      Ending s w n (.enter n supply) (w.reach n o (w.disk, .ended (.error r))) (.error r)
  | undrafted {fault : Option String} {o : Operation} {u : Work} {r : Refusal} {drafts : Store}
      (operation : w.operations[n]? = some o) (phase : o.phase = .staged u)
      (writing : r.isOfWriting = true)
      (cause : (∃ message, fault = some message ∧ r = .notWritten message) ∨
        w.store.write u.document = .error r) :
      Ending s w n (.draft n fault) (w.reach n o ({ w.disk with drafts }, .ended (.error r)))
        (.error r)
  | settled {audit : Option String} {o : Operation} {u : Work} {place : Place} {x : Stored}
      (operation : w.operations[n]? = some o) (phase : o.phase = .drafted u place)
      (draft : w.disk.drafts.at? place = some x) :
      Ending s w n (.settle n none audit) (w.reach n o
        (⟨w.disk.store.put place x, w.disk.drafts.erase place⟩, .ended (u.answer audit)))
        (u.answer audit)
  | unsettled {fault audit : Option String} {o : Operation} {u : Work} {place : Place}
      (operation : w.operations[n]? = some o) (phase : o.phase = .drafted u place)
      (lost : fault = none → w.disk.drafts.at? place = none) :
      Ending s w n (.settle n fault audit)
        (w.reach n o (w.disk, .ended (.error (.notWritten (fault.getD Disk.noDraft)))))
        (.error (.notWritten (fault.getD Disk.noDraft)))

/-! ## Phases -/

/-- What comes after a phase of an operation. -/
inductive Phase.Next : Phase → Phase → Prop
  | entered {p : Plan} {supply : Supply} {x : Staged} :
      Next (.planned p) (.staged ⟨p, supply, x⟩)
  | refused {p : Plan} {r : Refusal} : Next (.planned p) (.ended (.error r))
  | drafted {u : Work} {place : Place} : Next (.staged u) (.drafted u place)
  | undrafted {u : Work} {r : Refusal} (writing : r.isOfWriting = true) :
      Next (.staged u) (.ended (.error r))
  | settled {u : Work} {place : Place} {audit : Option String} :
      Next (.drafted u place) (.ended (u.answer audit))
  | unsettled {u : Work} {place : Place} {message : String} :
      Next (.drafted u place) (.ended (.error (.notWritten message)))

namespace Service

variable {s : Service} {w : Situation} {as bs : List Action} {i j n : Nat}

/-- With an action, an operation stays in its phase or goes to the next one. -/
theorem next_advance (s : Service) (w : Situation) (a : Action) {o : Operation}
    (hn : w.operations[n]? = some o) :
    ∃ phase, (s.advance w a).operations[n]? = some ⟨o.party, o.command, phase⟩ ∧
      (phase = o.phase ∨ o.phase.Next phase) := by
  have hstep := s.advances w a
  generalize s.advance w a = w' at hstep
  have hreach : ∀ {k o' x}, w.operations[k]? = some o' → o'.phase.Next x.2 →
      ∃ phase, (w.reach k o' x).operations[n]? = some ⟨o.party, o.command, phase⟩ ∧
        (phase = o.phase ∨ o.phase.Next phase) := by
    intro k o' x hk hnext
    rw [Situation.getElem?_reach hk]
    by_cases hkn : k = n
    · subst hkn
      cases hk.symm.trans hn
      exact ⟨x.2, if_pos rfl, .inr hnext⟩
    · exact ⟨o.phase, by rw [if_neg hkn, hn], .inl rfl⟩
  cases hstep with
  | waits | idle | unready | told => exact ⟨o.phase, hn, .inl rfl⟩
  | looked =>
    refine ⟨o.phase, ?_, .inl rfl⟩
    rw [List.getElem?_append_left (List.getElem?_eq_some_iff.1 hn).1, hn]
  | entered operation phase => exact hreach operation (phase ▸ .entered)
  | refused operation phase => exact hreach operation (phase ▸ .refused)
  | drafted operation phase => exact hreach operation (phase ▸ .drafted)
  | undrafted operation phase writing => exact hreach operation (phase ▸ .undrafted writing)
  | settled operation phase => exact hreach operation (phase ▸ .settled)
  | unsettled operation phase => exact hreach operation (phase ▸ .unsettled)

/-- What stays true from phase to phase of an operation stays true of it. Nobody else goes on with
it, and nothing else is asked for by it. -/
theorem kept_of_prefix {P : Phase → Prop} (hP : ∀ x y, x.Next y → P x → P y) (h : bs <+: as)
    {o : Operation} (hn : (s.situation bs).operations[n]? = some o) (hp : P o.phase) :
    ∃ phase, (s.situation as).operations[n]? = some ⟨o.party, o.command, phase⟩ ∧ P phase := by
  obtain ⟨cs, rfl⟩ := h
  induction cs using List.reverseRecOn with
  | nil =>
    rw [List.append_nil]
    exact ⟨o.phase, hn, hp⟩
  | append_singleton cs a ih =>
    obtain ⟨phase, hphase, hp⟩ := ih
    rw [← List.append_assoc, situation_concat]
    obtain ⟨phase', hphase', hsame | hnext⟩ := s.next_advance _ a hphase
    · exact ⟨phase', hphase', hsame ▸ hp⟩
    · exact ⟨phase', hphase', hP _ _ hnext hp⟩

theorem asks_of_prefix (h : bs <+: as) {o : Operation}
    (hn : (s.situation bs).operations[n]? = some o) :
    (s.situation as).Asks n o.party o.command := by
  obtain ⟨phase, hphase, -⟩ :=
    kept_of_prefix (P := fun _ => True) (fun _ _ _ _ => trivial) h hn trivial
  exact ⟨phase, hphase⟩

/-- An operation has the answer that it has had. -/
theorem answer_of_prefix (h : bs <+: as) {answer : Except Refusal Outcome}
    (ha : (s.situation bs).answer? n = some answer) :
    (s.situation as).answer? n = some answer := by
  obtain ⟨o, ho, hanswer⟩ := Option.bind_eq_some_iff.1 ha
  have hkept : ∀ x y : Phase, x.Next y → x.answer? = some answer → y.answer? = some answer := by
    intro x y hnext hx
    cases hnext <;> cases hx
  obtain ⟨phase, hphase, hanswer⟩ := kept_of_prefix hkept h ho hanswer
  rw [Situation.answer?, hphase]
  exact hanswer

/-! ## The action that ends an operation -/

/-- An operation that has an answer only afterwards ends with the action. -/
theorem ending_advance {a : Action} {answer : Except Refusal Outcome} (hbefore : w.answer? n = none)
    (hafter : (s.advance w a).answer? n = some answer) :
    Ending s w n a (s.advance w a) answer := by
  have hstep := s.advances w a
  generalize s.advance w a = w' at hstep hafter
  -- it is the operation that goes on with the action, and its answer is the new one
  have hreach : ∀ {k o x}, w.operations[k]? = some o →
      (w.reach k o x).answer? n = some answer → k = n ∧ x.2.answer? = some answer := by
    intro k o x hk h
    rw [Situation.answer?, Situation.getElem?_reach hk] at h
    by_cases hkn : k = n
    · rw [if_pos hkn] at h
      exact ⟨hkn, h⟩
    · rw [if_neg hkn] at h
      exact absurd (hbefore.symm.trans h) nofun
  cases hstep with
  | waits | idle | unready => exact absurd (hbefore.symm.trans hafter) nofun
  | told => exact absurd (hbefore.symm.trans hafter) nofun
  | @looked party command supply directory =>
    obtain ⟨o, ho, hanswer⟩ := Option.bind_eq_some_iff.1 hafter
    rcases Situation.getElem?_concat_cases ho with ho' | ⟨rfl, rfl⟩
    · rw [Situation.answer?, ho', Option.bind_some, hanswer] at hbefore
      cases hbefore
    · cases hr : (s.planAsking w.store directory party supply command).result with
      | ok p =>
        rw [hr] at hanswer
        cases hanswer
      | error r =>
        simp only [hr] at hanswer ho ⊢
        cases hanswer
        exact .looked rfl hr rfl ho
  | entered operation =>
    obtain ⟨-, h⟩ := hreach operation hafter
    cases h
  | drafted operation =>
    obtain ⟨-, h⟩ := hreach operation hafter
    cases h
  | refused operation phase free refused =>
    obtain ⟨rfl, h⟩ := hreach operation hafter
    cases h
    exact .refused operation phase refused
  | undrafted operation phase writing cause left =>
    obtain ⟨rfl, h⟩ := hreach operation hafter
    cases h
    exact .undrafted operation phase writing cause
  | settled operation phase draft =>
    obtain ⟨rfl, h⟩ := hreach operation hafter
    cases h
    exact .settled operation phase draft
  | unsettled operation phase lost =>
    obtain ⟨rfl, h⟩ := hreach operation hafter
    cases h
    exact .unsettled operation phase lost

theorem situation_take_succ {a : Action} (h : as[i]? = some a) :
    s.situation (as.take (i + 1)) = s.advance (s.situation (as.take i)) a := by
  rw [List.take_add_one, h, Option.toList_some, situation_concat]

/-- **An operation ends** with some action. -/
theorem Finishes.ending {answer : Except Refusal Outcome} (h : s.Finishes as j n answer) :
    ∃ a, as[j]? = some a ∧
      Ending s (s.situation (as.take j)) n a (s.situation (as.take (j + 1))) answer := by
  obtain ⟨hbefore, hafter⟩ := h
  cases ha : as[j]? with
  | none =>
    rw [List.take_add_one, ha, Option.toList_none, List.append_nil, hbefore] at hafter
    cases hafter
  | some a =>
    rw [situation_take_succ ha] at hafter ⊢
    exact ⟨a, rfl, ending_advance hbefore hafter⟩

/-- In an orderly schedule, an operation that ends well has written what would be staged at that
very moment. -/
theorem Finishes.written {outcome : Outcome} (h : s.Finishes as j n (.ok outcome))
    (ho : s.IsOrderly as) :
    ∃ o u place, (s.situation (as.take j)).operations[n]? = some o ∧
      o.phase.work? = some u ∧ u.staged.outcome = outcome ∧
      (u.plan.enter (s.situation (as.take j)).store u.supply).result = .ok u.staged ∧
      (s.situation (as.take j)).store.placeFor u.document.definition.id = .ok place ∧
      u.document.versions.all (·.snapshot.areWritable) = true ∧
      (s.situation (as.take (j + 1))).store =
        (s.situation (as.take j)).store.put place (.document u.document) := by
  obtain ⟨a, -, hending⟩ := h.ending
  have hfollows := follows_serial (ho.take j)
  generalize hw : s.situation (as.take (j + 1)) = w' at hending
  generalize ha : Except.ok outcome = answer at hending
  cases hending with
  | looked | refused | undrafted | unsettled => cases ha
  | @settled audit o u place x operation phase draft =>
    have hu : o.phase.work? = some u := Phase.work?_of_drafted phase
    obtain ⟨hp, hat, hwritable⟩ := hfollows.drafted n o u place operation phase
    obtain ⟨-, henter⟩ := hfollows.working n o u operation hu
    obtain rfl := Option.some.inj (hat.symm.trans draft)
    have houtcome : u.staged.outcome = outcome := by
      unfold Work.answer at ha
      split at ha
      · cases ha
      · exact (Except.ok.inj ha).symm
    exact ⟨o, u, place, operation, hu, houtcome, henter, hp, hwritable, rfl⟩

/-! ## Looks -/

theorem length_operations_advance (s : Service) (w : Situation) (a : Action) :
    w.operations.length ≤ (s.advance w a).operations.length := by
  have hstep := s.advances w a
  generalize s.advance w a = w' at hstep
  cases hstep with
  | looked => simp
  | _ => simp

theorem length_operations_le {bs : List Action} (h : bs <+: as) :
    (s.situation bs).operations.length ≤ (s.situation as).operations.length := by
  obtain ⟨cs, rfl⟩ := h
  induction cs using List.reverseRecOn with
  | nil => simp
  | append_singleton cs a ih =>
    rw [← List.append_assoc, situation_concat]
    exact Nat.le_trans ih (s.length_operations_advance _ a)

/-- The look of an operation comes before that of any later one. -/
theorem length_le_of_looks {bs cs : List Action} {party : Party} {command : Command}
    {supply : Supply} {directory : Directory Unread}
    (hb : bs ++ [.look party command supply directory] <+: as) (hc : cs <+: as)
    (hle : (s.situation cs).operations.length ≤ (s.situation bs).operations.length) :
    cs.length ≤ bs.length := by
  by_contra hlt
  have hprefix : bs ++ [.look party command supply directory] <+: cs := by
    refine List.prefix_of_prefix_length_le hb hc ?_
    rw [List.length_append, List.length_singleton]
    omega
  have hlonger := length_operations_le (s := s) hprefix
  rw [situation_concat] at hlonger
  simp only [advance, List.length_append, List.length_singleton] at hlonger
  omega

theorem take_concat_prefix {a : Action} (h : as[i]? = some a) : as.take i ++ [a] <+: as := by
  have htake := List.take_prefix (i + 1) as
  rwa [List.take_add_one, h, Option.toList_some] at htake

/-- **An operation** goes by the plan that it has made with its look. -/
theorem planned_of_looked {party : Party} {command : Command} {supply : Supply}
    {directory : Directory Unread} (hlook : as[i]? = some (.look party command supply directory))
    (hlength : (s.situation (as.take i)).operations.length = n) {o : Operation} {p : Plan}
    (hn : (s.situation (as.take j)).operations[n]? = some o) (hp : o.phase.plan? = some p) :
    i < j ∧ Planned s (s.situation (as.take i)).store directory party supply command p := by
  obtain ⟨bs, supply', directory', hprefix, hlength', hplanned⟩ := planned_situation hn hp
  have hi := take_concat_prefix hlook
  have hbs := hprefix.trans (List.take_prefix j as)
  have hle := length_le_of_looks (s := s) hi ((List.prefix_append _ _).trans hbs) (by omega)
  have hge := length_le_of_looks (s := s) hbs ((List.prefix_append _ _).trans hi) (by omega)
  have hlen : (bs ++ [Action.look o.party o.command supply' directory']).length =
      (as.take i ++ [Action.look party command supply directory]).length := by
    rw [List.length_append, List.length_append, Nat.le_antisymm hge hle, List.length_singleton,
      List.length_singleton]
  have heq := (List.prefix_of_prefix_length_le hbs hi (Nat.le_of_eq hlen)).eq_of_length hlen
  obtain ⟨rfl, hlast⟩ := List.append_inj' heq rfl
  cases hlast
  refine ⟨?_, hplanned⟩
  have hshort := hprefix.length_le
  rw [List.length_append, List.length_singleton, List.length_take, List.length_take] at hshort
  have hilt := (List.getElem?_eq_some_iff.1 hlook).1
  omega

end Service

end WorkflowRelease
