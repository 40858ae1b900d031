import Mathlib.Data.List.Induction
import WorkflowRelease.Proofs.Run.Turn
import WorkflowRelease.Release.Concurrent

/-!
# What an action does

All that an action can do to a situation, in one relation (`Advances`), and what follows for locks:
no lock is held by two operations, and an operation goes by the plan that it has made with its look.
Main statements: `advances`, `locked_situation` and `planned_situation`.
-/

namespace WorkflowRelease

namespace Disk

variable {disk : Disk} {u : Work} {place : Place} {fault audit : Option String}

/-- What is staged is drafted, or there is a refusal, which may leave an empty draft. -/
theorem draft_cases (disk : Disk) (u : Work) (fault : Option String) :
    (∃ place, fault = none ∧ disk.store.placeFor u.document.definition.id = .ok place ∧
      u.document.versions.all (·.snapshot.areWritable) = true ∧
      disk.draft u fault =
        ({ disk with drafts := disk.drafts.put place (.document u.document) },
          .drafted u place)) ∨
    ∃ r drafts, disk.draft u fault = ({ disk with drafts }, .ended (.error r)) ∧
      r.isOfWriting = true ∧
      ((∃ message, fault = some message ∧ r = .notWritten message) ∨
        disk.store.write u.document = .error r) ∧
      (drafts = disk.drafts ∨ ∃ place,
        disk.store.placeFor u.document.definition.id = .ok place ∧
        drafts = disk.drafts.put place .noDocument) := by
  unfold draft Store.write
  cases hp : disk.store.placeFor u.document.definition.id with
  | error r => exact .inr ⟨r, _, rfl, Store.isOfWriting_of_placeFor hp, .inr rfl, .inl rfl⟩
  | ok place =>
    cases fault with
    | some message =>
      exact .inr ⟨_, _, rfl, rfl, .inl ⟨message, rfl, rfl⟩, .inr ⟨place, rfl, rfl⟩⟩
    | none =>
      cases hw : u.document.versions.all (·.snapshot.areWritable) with
      | true => exact .inl ⟨place, rfl, rfl, rfl, if_pos rfl⟩
      | false => exact .inr ⟨_, _, if_neg nofun, rfl, .inr rfl, .inr ⟨place, rfl, rfl⟩⟩

/-- What is drafted takes its place, or there is a refusal and nothing has happened. -/
theorem settle_cases (disk : Disk) (u : Work) (place : Place) (fault audit : Option String) :
    (∃ x, fault = none ∧ disk.drafts.at? place = some x ∧ disk.settle u place fault audit =
      (⟨disk.store.put place x, disk.drafts.erase place⟩, .ended (u.answer audit))) ∨
    (fault = none → disk.drafts.at? place = none) ∧ disk.settle u place fault audit =
      (disk, .ended (.error (.notWritten (fault.getD noDraft)))) := by
  unfold settle
  cases fault with
  | some message => exact .inr ⟨nofun, rfl⟩
  | none =>
    cases hx : disk.drafts.at? place with
    | none => exact .inr ⟨fun _ => rfl, rfl⟩
    | some x => exact .inl ⟨x, rfl, rfl, rfl⟩

end Disk

/-- What has nothing to say in the audit trail is answered with its outcome. -/
theorem Work.answer_of_trail {u : Work} (h : u.staged.trail = none) (audit : Option String) :
    u.answer audit = .ok u.staged.outcome := by
  unfold answer
  rw [h]

/-- An operation that has just looked is in no unit of work. -/
@[simp] theorem Phase.work?_ofPlan (x : Except Refusal Plan) : (Phase.ofPlan x).work? = none := by
  cases x <;> rfl

namespace Situation

variable {w : Situation} {n k : Nat} {o : Operation} {x : Disk × Phase}

@[simp] theorem store_reach (w : Situation) (n : Nat) (o : Operation) (x : Disk × Phase) :
    (w.reach n o x).store = x.1.store := rfl

@[simp] theorem disk_reach (w : Situation) (n : Nat) (o : Operation) (x : Disk × Phase) :
    (w.reach n o x).disk = x.1 := rfl

@[simp] theorem length_operations_reach (w : Situation) (n : Nat) (o : Operation)
    (x : Disk × Phase) : (w.reach n o x).operations.length = w.operations.length := by
  simp [reach]

theorem getElem?_reach (hn : w.operations[n]? = some o) (x : Disk × Phase) (k : Nat) :
    (w.reach n o x).operations[k]? =
      if n = k then some { o with phase := x.2 } else w.operations[k]? := by
  rw [reach, List.getElem?_set]
  by_cases hk : n = k
  · subst hk
    rw [if_pos rfl, if_pos rfl, if_pos (List.getElem?_eq_some_iff.1 hn).1]
  · rw [if_neg hk, if_neg hk]

theorem getElem?_concat_cases {α : Type} {l : List α} {a b : α}
    (h : (l ++ [a])[k]? = some b) : l[k]? = some b ∨ k = l.length ∧ b = a := by
  rw [List.getElem?_append] at h
  split at h
  · exact .inl h
  · obtain ⟨hk, hb⟩ := List.getElem?_eq_some_iff.1 h
    rw [List.length_singleton] at hk
    refine .inr ⟨by omega, ?_⟩
    rw [← hb, List.getElem_singleton]

/-- An operation afterwards is the one that has got on, or it was there before. -/
theorem getElem?_reach_cases (hn : w.operations[n]? = some o) {o' : Operation}
    (h : (w.reach n o x).operations[k]? = some o') :
    n = k ∧ o' = { o with phase := x.2 } ∨ n ≠ k ∧ w.operations[k]? = some o' := by
  rw [getElem?_reach hn] at h
  by_cases hk : n = k
  · rw [if_pos hk, Option.some.injEq] at h
    exact .inl ⟨hk, h.symm⟩
  · rw [if_neg hk] at h
    exact .inr ⟨hk, h⟩

end Situation

/-! ## Actions -/

/-- The operation that goes on with an action. -/
def Action.operation? : Action → Option Nat
  | .look .. | .inquire .. => none
  | .enter n _ | .draft n _ | .settle n _ _ => some n

/-- All that an action may lead to. -/
inductive Advances (s : Service) (w : Situation) : Action → Situation → Prop
  | waits {n : Nat} {supply : Supply} : Advances s w (.enter n supply) w
  | idle {n : Nat} {fault : Option String} : Advances s w (.draft n fault) w
  | unready {n : Nat} {fault audit : Option String}
      (unready : ∀ o u place, w.operations[n]? = some o → o.phase ≠ .drafted u place) :
      Advances s w (.settle n fault audit) w
  | looked {party : Party} {command : Command} {supply : Supply} {directory : Directory Unread} :
      Advances s w (.look party command supply directory)
        { w with operations := w.operations ++ [⟨party, command,
            .ofPlan (s.planAsking w.store directory party supply command).result⟩] }
  | told {party : Party} {inquiry : Inquiry} : Advances s w (.inquire party inquiry)
      { w with told := w.told ++ [(w.store.view party inquiry).result] }
  | entered {n : Nat} {supply : Supply} {o : Operation} {p : Plan} {x : Staged}
      (operation : w.operations[n]? = some o) (phase : o.phase = .planned p)
      (free : w.isHeld p.locks = false) (staged : (p.enter w.store supply).result = .ok x) :
      Advances s w (.enter n supply) (w.reach n o (w.disk, .staged ⟨p, supply, x⟩))
  | refused {n : Nat} {supply : Supply} {o : Operation} {p : Plan} {r : Refusal}
      (operation : w.operations[n]? = some o) (phase : o.phase = .planned p)
      (free : w.isHeld p.locks = false) (refused : (p.enter w.store supply).result = .error r) :
      Advances s w (.enter n supply) (w.reach n o (w.disk, .ended (.error r)))
  | drafted {n : Nat} {o : Operation} {u : Work} {place : Place}
      (operation : w.operations[n]? = some o) (phase : o.phase = .staged u)
      (leads : w.store.placeFor u.document.definition.id = .ok place)
      (writable : u.document.versions.all (·.snapshot.areWritable) = true) :
      Advances s w (.draft n none) (w.reach n o
        ({ w.disk with drafts := w.disk.drafts.put place (.document u.document) },
          .drafted u place))
  | undrafted {n : Nat} {fault : Option String} {o : Operation} {u : Work} {r : Refusal}
      {drafts : Store} (operation : w.operations[n]? = some o) (phase : o.phase = .staged u)
      (writing : r.isOfWriting = true)
      (cause : (∃ message, fault = some message ∧ r = .notWritten message) ∨
        w.store.write u.document = .error r)
      (left : drafts = w.disk.drafts ∨ ∃ place,
        w.store.placeFor u.document.definition.id = .ok place ∧
        drafts = w.disk.drafts.put place .noDocument) :
      Advances s w (.draft n fault) (w.reach n o ({ w.disk with drafts }, .ended (.error r)))
  | settled {n : Nat} {audit : Option String} {o : Operation} {u : Work} {place : Place}
      {x : Stored} (operation : w.operations[n]? = some o) (phase : o.phase = .drafted u place)
      (draft : w.disk.drafts.at? place = some x) :
      Advances s w (.settle n none audit) (w.reach n o
        (⟨w.disk.store.put place x, w.disk.drafts.erase place⟩, .ended (u.answer audit)))
  | unsettled {n : Nat} {fault audit : Option String} {o : Operation} {u : Work} {place : Place}
      (operation : w.operations[n]? = some o) (phase : o.phase = .drafted u place)
      (lost : fault = none → w.disk.drafts.at? place = none) :
      Advances s w (.settle n fault audit)
        (w.reach n o (w.disk, .ended (.error (.notWritten (fault.getD Disk.noDraft)))))

namespace Service

variable {s : Service} {w : Situation} {a : Action}

/-- **An action** leads to nothing else. -/
theorem advances (s : Service) (w : Situation) (a : Action) : Advances s w a (s.advance w a) := by
  cases a with
  | look => exact .looked
  | inquire => exact .told
  | enter n supply =>
    simp only [advance]
    split
    · rename_i party command p hn
      split
      · exact .waits
      · rename_i hfree
        have hfree := Bool.eq_false_iff.2 hfree
        unfold Disk.enter
        cases hx : (p.enter w.disk.store supply).result with
        | ok x => exact .entered hn rfl hfree hx
        | error r => exact .refused hn rfl hfree hx
    · exact .waits
  | draft n fault =>
    simp only [advance]
    split
    · rename_i party command u hn
      rcases w.disk.draft_cases u fault with
        ⟨place, rfl, hp, hw, hd⟩ | ⟨r, drafts, hd, hr, hcause, hleft⟩
      · rw [hd]
        exact .drafted hn rfl hp hw
      · rw [hd]
        exact .undrafted hn rfl hr hcause hleft
    · exact .idle
  | settle n fault audit =>
    simp only [advance]
    split
    · rename_i party command u place hn
      rcases w.disk.settle_cases u place fault audit with ⟨x, rfl, hx, hd⟩ | ⟨hlost, hd⟩
      · rw [hd]
        exact .settled hn rfl hx
      · rw [hd]
        exact .unsettled hn rfl hlost
    · rename_i hnone
      refine .unready fun o u place hn hphase => hnone o.party o.command u place ?_
      rw [hn, ← hphase]

/-- An action of one operation is of no concern to the others. -/
theorem advance_own {n : Nat} (s : Service) (w : Situation) (ha : a.operation? = some n) :
    s.advance w a = w ∨ ∃ o x, w.operations[n]? = some o ∧ s.advance w a = w.reach n o x := by
  have hstep := s.advances w a
  generalize s.advance w a = w' at hstep
  cases hstep with
  | waits | idle | unready => exact .inl rfl
  | looked | told => cases ha
  | entered operation | refused operation | drafted operation | undrafted operation
  | settled operation | unsettled operation =>
    cases ha
    exact .inr ⟨_, _, operation, rfl⟩

@[simp] theorem situation_nil (s : Service) : s.situation [] = s.calm := rfl

@[simp] theorem situation_concat (s : Service) (as : List Action) (a : Action) :
    s.situation (as ++ [a]) = s.advance (s.situation as) a := by
  simp [situation, List.foldl_append]

end Service

/-! ## Plans -/

theorem Phase.work?_of_staged {phase : Phase} {u : Work} (h : phase = .staged u) :
    phase.work? = some u := by
  rw [h]
  rfl

theorem Phase.work?_of_drafted {phase : Phase} {u : Work} {place : Place}
    (h : phase = .drafted u place) : phase.work? = some u := by
  rw [h]
  rfl

/-- A unit of work is that of the plan. -/
theorem Phase.plan?_of_work {phase : Phase} {u : Work} (h : phase.work? = some u) :
    phase.plan? = some u.plan := by
  cases phase with
  | planned | ended => cases h
  | staged | drafted =>
    cases h
    rfl

/-- A plan that an operation has afterwards is the one that it had before, or it has just looked. -/
theorem Service.plan_advance {s : Service} {w : Situation} {a : Action} {n : Nat} {o : Operation}
    {p : Plan} (hn : (s.advance w a).operations[n]? = some o) (hp : o.phase.plan? = some p) :
    (∃ o', w.operations[n]? = some o' ∧ o'.party = o.party ∧ o'.command = o.command ∧
      o'.phase.plan? = some p) ∨
    ∃ supply directory, a = .look o.party o.command supply directory ∧ w.operations.length = n ∧
      (s.planAsking w.store directory o.party supply o.command).result = .ok p := by
  have hstep := s.advances w a
  generalize s.advance w a = w' at hstep hn
  have hreach : ∀ {k o' x}, w.operations[k]? = some o' → (w.reach k o' x).operations[n]? = some o →
      (x.2.plan? = some p → o'.phase.plan? = some p) →
      ∃ o', w.operations[n]? = some o' ∧ o'.party = o.party ∧ o'.command = o.command ∧
        o'.phase.plan? = some p := by
    intro k o' x hk hn hkept
    rcases Situation.getElem?_reach_cases hk hn with ⟨rfl, rfl⟩ | ⟨-, hn⟩
    · exact ⟨o', hk, rfl, rfl, hkept hp⟩
    · exact ⟨o, hn, rfl, rfl, hp⟩
  cases hstep with
  | waits | idle | unready | told => exact .inl ⟨o, hn, rfl, rfl, hp⟩
  | @looked party command supply directory =>
    rcases Situation.getElem?_concat_cases hn with hn | ⟨rfl, rfl⟩
    · exact .inl ⟨o, hn, rfl, rfl, hp⟩
    · refine .inr ⟨supply, directory, rfl, rfl, ?_⟩
      cases hr : (s.planAsking w.store directory party supply command).result with
      | ok p' =>
        simp only [hr] at hp
        exact congrArg Except.ok (Option.some.inj hp)
      | error r =>
        simp only [hr] at hp
        cases hp
  | entered operation phase | drafted operation phase =>
    refine .inl (hreach operation hn fun h => ?_)
    rw [phase]
    exact h
  | refused operation | undrafted operation | settled operation | unsettled operation =>
    exact .inl (hreach operation hn fun h => nomatch h)

/-- **An operation that has not ended** goes by the plan that it has made with its look. -/
theorem Service.planned_situation {s : Service} {as : List Action} {n : Nat} {o : Operation}
    {p : Plan} (hn : (s.situation as).operations[n]? = some o) (hp : o.phase.plan? = some p) :
    ∃ bs supply directory, bs ++ [.look o.party o.command supply directory] <+: as ∧
      (s.situation bs).operations.length = n ∧
      Planned s (s.situation bs).store directory o.party supply o.command p := by
  induction as using List.reverseRecOn generalizing o with
  | nil => cases hn
  | append_singleton as a ih =>
    rw [situation_concat] at hn
    rcases plan_advance hn hp with
      ⟨o', hn, hparty, hcommand, hp⟩ | ⟨supply, directory, rfl, hlength, hr⟩
    · obtain ⟨bs, supply, directory, hprefix, hlength, hplanned⟩ := ih hn hp
      rw [hparty, hcommand] at hprefix hplanned
      exact ⟨bs, supply, directory, hprefix.trans (List.prefix_append _ _), hlength, hplanned⟩
    · exact ⟨as, supply, directory, List.prefix_rfl, hlength, planned_of_planAsking hr⟩

/-! ## Locks -/

theorem Situation.isHeld_eq_false_iff {w : Situation} {locks : List Lock} :
    w.isHeld locks = false ↔ ∀ o ∈ w.operations, ∀ lock ∈ o.phase.locks, lock ∉ locks := by
  simp [isHeld]

/-- No lock is held by two operations. -/
def Situation.Locked (w : Situation) : Prop :=
  ∀ (n k : Nat) (o o' : Operation), n ≠ k → w.operations[n]? = some o → w.operations[k]? = some o' →
    ∀ lock ∈ o.phase.locks, lock ∉ o'.phase.locks

namespace Situation.Locked

variable {w : Situation} {n : Nat} {o : Operation} {x : Disk × Phase}

/-- An operation gets on with the locks that it has, or with free ones. -/
theorem reach (h : w.Locked) (hn : w.operations[n]? = some o)
    (hlocks : ∀ lock ∈ x.2.locks, lock ∈ o.phase.locks ∨
      ∀ o' ∈ w.operations, lock ∉ o'.phase.locks) : (w.reach n o x).Locked := by
  intro k l o₁ o₂ hne h₁ h₂ lock hlock hlock'
  rcases getElem?_reach_cases hn h₁ with ⟨rfl, rfl⟩ | ⟨-, h₁⟩
  · rcases getElem?_reach_cases hn h₂ with ⟨rfl, -⟩ | ⟨-, h₂⟩
    · exact hne rfl
    · rcases hlocks lock hlock with hown | hfree
      · exact h n l o o₂ hne hn h₂ lock hown hlock'
      · exact hfree o₂ (List.mem_of_getElem? h₂) hlock'
  · rcases getElem?_reach_cases hn h₂ with ⟨rfl, rfl⟩ | ⟨-, h₂⟩
    · rcases hlocks lock hlock' with hown | hfree
      · exact h k n o₁ o hne h₁ hn lock hlock hown
      · exact hfree o₁ (List.mem_of_getElem? h₁) hlock
    · exact h k l o₁ o₂ hne h₁ h₂ lock hlock hlock'

theorem advance (h : w.Locked) (s : Service) (a : Action) : (s.advance w a).Locked := by
  have hstep := s.advances w a
  generalize s.advance w a = w' at hstep
  cases hstep with
  | waits | idle | unready | told => exact h
  | looked =>
    -- the new operation is the last one, and holds nothing
    intro k l o₁ o₂ hne h₁ h₂ lock hlock hlock'
    rcases getElem?_concat_cases h₁ with h₁ | ⟨-, rfl⟩
    · rcases getElem?_concat_cases h₂ with h₂ | ⟨-, rfl⟩
      · exact h k l o₁ o₂ hne h₁ h₂ lock hlock hlock'
      · rw [Phase.locks, Phase.work?_ofPlan] at hlock'
        cases hlock'
    · rw [Phase.locks, Phase.work?_ofPlan] at hlock
      cases hlock
  | @entered n supply o p x operation phase free staged =>
    have hlocks : p.locks = p.change.locks := if_pos (Plan.stages_of_enter staged).1
    rw [hlocks] at free
    exact h.reach operation fun lock hlock => .inr fun o' ho' hlock' =>
      isHeld_eq_false_iff.1 free o' ho' lock hlock' hlock
  | drafted operation phase _ _ =>
    refine h.reach operation fun lock hlock => .inl ?_
    rw [phase]
    exact hlock
  | settled operation | refused operation | undrafted operation | unsettled operation =>
    exact h.reach operation fun lock hlock => nomatch hlock

end Situation.Locked

/-- **Locks exclude each other**, whatever happens. -/
theorem Service.locked_situation (s : Service) (as : List Action) : (s.situation as).Locked := by
  induction as using List.reverseRecOn with
  | nil =>
    intro n k o o' _ ho
    cases ho
  | append_singleton as a ih =>
    rw [situation_concat]
    exact ih.advance s a

end WorkflowRelease
