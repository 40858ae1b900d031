import WorkflowRelease.Proofs.Concurrent.Alone
import WorkflowRelease.Proofs.Concurrent.Endings

/-!
# Unseen failures

Whoever only reads changes nothing, and neither does an operation that ends with a refusal: what is
stored at any moment, and what all others are told, is as if it had never been called. `without`
leaves the actions of one operation out of a schedule. A refusal at the look or in the unit of work
comes before anything is drafted. A refusal of the writing itself may leave a draft behind, which
nobody takes for theirs as long as no two units of work for one place overlap. Main statements:
`Situation.Lacks.advance`, each action of the others keeps two situations alike but for the
operation that one of them lacks, and `refused_unseen`.
-/

namespace WorkflowRelease

/-! ## Leaving out an operation -/

/-- The number that an operation has when the one with the number `n` is left out. -/
def renumbered (n k : Nat) : Nat := if k < n then k else k - 1

/-- The action when the operation with a number is left out. -/
def Action.renumber (n : Nat) : Action → Action
  | .enter k supply => .enter (renumbered n k) supply
  | .draft k fault => .draft (renumbered n k) fault
  | .settle k fault audit => .settle (renumbered n k) fault audit
  | a => a

namespace Situation

/-- The action is one of the operation with the number. -/
def isOf (w : Situation) (n : Nat) : Action → Bool
  | .look .. => w.operations.length = n
  | .inquire .. => false
  | .enter k _ | .draft k _ | .settle k _ _ => k = n

/-- The action waits for a lock, and does not happen yet. -/
def waits (w : Situation) : Action → Bool
  | .enter k _ =>
    match w.operations[k]? with
    | some ⟨_, _, .planned p⟩ => w.isHeld p.locks
    | _ => false
  | _ => false

end Situation

namespace Service

/-- The actions that happen after a situation, without those of the operation with a number. -/
def withoutFrom (s : Service) (n : Nat) : Situation → List Action → List Action
  | _, [] => []
  | w, a :: as =>
    if w.isOf n a || w.waits a then s.withoutFrom n (s.advance w a) as
    else a.renumber n :: s.withoutFrom n (s.advance w a) as

/-- The schedule without the operation with a number. -/
def without (s : Service) (n : Nat) (as : List Action) : List Action :=
  s.withoutFrom n s.calm as

theorem withoutFrom_append (s : Service) (n : Nat) (w : Situation) (as as' : List Action) :
    s.withoutFrom n w (as ++ as') =
      s.withoutFrom n w as ++ s.withoutFrom n (as.foldl s.advance w) as' := by
  induction as generalizing w with
  | nil => rfl
  | cons a as ih =>
    rw [List.cons_append, withoutFrom, withoutFrom, ih]
    split
    · rfl
    · rfl

theorem without_concat (s : Service) (n : Nat) (as : List Action) (a : Action) :
    s.without n (as ++ [a]) = s.without n as ++
      if (s.situation as).isOf n a || (s.situation as).waits a then [] else [a.renumber n] := by
  rw [without, withoutFrom_append, withoutFrom, withoutFrom]
  rfl

end Service

/-! ## Alike but for one operation -/

namespace Disk

variable {disk disk' : Disk}

theorem enter_congr (hs : disk'.store = disk.store) (p : Plan) (supply : Supply) :
    disk'.enter p supply = disk.enter p supply := by
  rw [enter, enter, hs]

/-- Drafts are made alike on disks that store the same. -/
theorem draft_congr (hs : disk'.store = disk.store) (u : Work) (fault : Option String) :
    (disk'.draft u fault).2 = (disk.draft u fault).2 ∧
      (disk'.draft u fault).1.store = (disk.draft u fault).1.store ∧
      (∀ q, disk'.drafts.at? q = disk.drafts.at? q →
        (disk'.draft u fault).1.drafts.at? q = (disk.draft u fault).1.drafts.at? q) ∧
      ∀ v q, (disk.draft u fault).2 = .drafted v q →
        (disk'.draft u fault).1.drafts.at? q = (disk.draft u fault).1.drafts.at? q := by
  unfold draft
  rw [hs]
  have hput : ∀ (p : Place) (x : Stored) (q : Place), disk'.drafts.at? q = disk.drafts.at? q →
      (disk'.drafts.put p x).at? q = (disk.drafts.put p x).at? q := by
    intro p x q hq
    rw [Store.at?_put, Store.at?_put, hq]
  cases disk.store.placeFor u.document.definition.id with
  | error r => exact ⟨rfl, hs, fun _ hq => hq, fun _ _ h => by cases h⟩
  | ok place =>
    cases fault with
    | some message => exact ⟨rfl, rfl, hput place _, fun _ _ h => by cases h⟩
    | none =>
      dsimp only
      split
      · refine ⟨rfl, rfl, hput place _, fun _ q h => ?_⟩
        cases h
        rw [Store.at?_put, Store.at?_put, if_pos rfl, if_pos rfl]
      · exact ⟨rfl, rfl, hput place _, fun _ _ h => by cases h⟩

/-- A draft takes its place alike on disks that store and have drafted the same. -/
theorem settle_congr (hs : disk'.store = disk.store) {place : Place}
    (hd : disk'.drafts.at? place = disk.drafts.at? place) (u : Work) (fault audit : Option String) :
    (disk'.settle u place fault audit).2 = (disk.settle u place fault audit).2 ∧
      (disk'.settle u place fault audit).1.store = (disk.settle u place fault audit).1.store ∧
      ∀ q, disk'.drafts.at? q = disk.drafts.at? q →
        (disk'.settle u place fault audit).1.drafts.at? q =
          (disk.settle u place fault audit).1.drafts.at? q := by
  unfold settle
  rw [hd]
  cases fault with
  | some message => exact ⟨rfl, hs, fun _ hq => hq⟩
  | none =>
    cases disk.drafts.at? place with
    | none => exact ⟨rfl, hs, fun _ hq => hq⟩
    | some x =>
      refine ⟨rfl, ?_, fun q hq => ?_⟩
      · dsimp only
        rw [hs]
      · rw [Store.at?_erase, Store.at?_erase, hq]

end Disk

/-- The one situation is the other one without an operation, which has not changed anything: the
others have come as far, and what they have drafted is the same. -/
structure Situation.Lacks (n : Nat) (w' w : Situation) : Prop where
  store : w'.store = w.store
  told : w'.told = w.told
  operations : w'.operations = w.operations.eraseIdx n
  drafts : ∀ k o u place, k ≠ n → w.operations[k]? = some o → o.phase = .drafted u place →
    w'.disk.drafts.at? place = w.disk.drafts.at? place

namespace Situation.Lacks

variable {s : Service} {n k : Nat} {w w' : Situation} {o : Operation}

theorem calm (s : Service) (n : Nat) : Lacks n s.calm s.calm where
  store := rfl
  told := rfl
  operations := rfl
  drafts _ _ _ _ _ _ _ := rfl

/-- All others are there, under other numbers. -/
theorem getElem? (h : Lacks n w' w) (hk : k ≠ n) :
    w'.operations[renumbered n k]? = w.operations[k]? := by
  rw [h.operations, List.getElem?_eraseIdx, renumbered]
  by_cases hlt : k < n
  · rw [if_pos hlt, if_pos hlt]
  · rw [if_neg hlt, if_neg (by omega), Nat.sub_add_cancel (by omega)]

theorem eraseIdx_set {α : Type} (hk : k ≠ n) (l : List α) (a : α) :
    (l.eraseIdx n).set (renumbered n k) a = (l.set k a).eraseIdx n := by
  rw [renumbered]
  split
  · rename_i hlt
    exact (List.eraseIdx_set_gt hlt).symm
  · exact (List.eraseIdx_set_lt (by omega)).symm

/-- Another operation gets on, to the same. -/
theorem reach (h : Lacks n w' w) (hk : k ≠ n) (ho : w.operations[k]? = some o)
    {x x' : Disk × Phase} (hphase : x'.2 = x.2) (hstore : x'.1.store = x.1.store)
    (hdrafts : ∀ q, w'.disk.drafts.at? q = w.disk.drafts.at? q →
      x'.1.drafts.at? q = x.1.drafts.at? q)
    (hdraft : ∀ v q, x.2 = .drafted v q → x'.1.drafts.at? q = x.1.drafts.at? q) :
    Lacks n (w'.reach (renumbered n k) o x') (w.reach k o x) where
  store := hstore
  told := h.told
  operations := by
    show w'.operations.set _ _ = (w.operations.set _ _).eraseIdx n
    rw [h.operations, eraseIdx_set hk, hphase]
  drafts l o' u q hl ho' hdrafted := by
    rcases getElem?_reach_cases ho ho' with ⟨rfl, rfl⟩ | ⟨-, ho'⟩
    · exact hdraft u q hdrafted
    · exact hdrafts q (h.drafts l o' u q hl ho' hdrafted)

theorem isHeld (h : Lacks n w' w) {locks : List Lock} (hfree : w.isHeld locks = false) :
    w'.isHeld locks = false := by
  rw [isHeld_eq_false_iff] at hfree ⊢
  rw [h.operations]
  exact fun o ho => hfree o (List.mem_of_mem_eraseIdx ho)

/-- **Each action** of another operation keeps the situations alike, if it happens. -/
theorem advance (h : Lacks n w' w) {a : Action} (hother : w.isOf n a = false)
    (hwaits : w.waits a = false) : Lacks n (s.advance w' (a.renumber n)) (s.advance w a) := by
  cases a with
  | look party command supply directory =>
    have hn : w.operations.length ≠ n := of_decide_eq_false hother
    simp only [Action.renumber, Service.advance, h.store]
    refine ⟨h.store, h.told, ?_, ?_⟩
    · show w'.operations ++ _ = List.eraseIdx _ n
      rw [h.operations]
      rcases Nat.lt_or_gt_of_ne hn with hlt | hgt
      · rw [List.eraseIdx_of_length_le (Nat.le_of_lt hlt), List.eraseIdx_of_length_le]
        rw [List.length_append, List.length_singleton]
        exact hlt
      · exact (List.eraseIdx_append_of_lt_length hgt _).symm
    · intro k o u place hk ho hdrafted
      rcases getElem?_concat_cases ho with ho | ⟨-, rfl⟩
      · exact h.drafts k o u place hk ho hdrafted
      · have hnone :=
          Phase.work?_ofPlan (s.planAsking w.store directory party supply command).result
        simp only at hdrafted
        rw [hdrafted] at hnone
        cases hnone
  | inquire party inquiry =>
    simp only [Action.renumber, Service.advance, h.store]
    exact { h with told := by rw [h.told] }
  | enter k supply =>
    have hk : k ≠ n := of_decide_eq_false hother
    simp only [Action.renumber, Service.advance, h.getElem? hk]
    split
    · rename_i party command p ho
      have hfree : w.isHeld p.locks = false := by
        simpa only [waits, ho] using hwaits
      rw [hfree, h.isHeld hfree, if_neg Bool.false_ne_true, if_neg Bool.false_ne_true]
      exact h.reach hk ho (Disk.enter_congr h.store p supply) h.store (fun _ hq => hq)
        (fun v q hdrafted => by
          unfold Disk.enter at hdrafted
          dsimp only at hdrafted
          split at hdrafted <;> cases hdrafted)
    · exact h
  | draft k fault =>
    have hk : k ≠ n := of_decide_eq_false hother
    simp only [Action.renumber, Service.advance, h.getElem? hk]
    split
    · rename_i party command u ho
      obtain ⟨hphase, hstore, hdrafts, hdraft⟩ := Disk.draft_congr h.store u fault
      exact h.reach hk ho hphase hstore hdrafts hdraft
    · exact h
  | settle k fault audit =>
    have hk : k ≠ n := of_decide_eq_false hother
    simp only [Action.renumber, Service.advance, h.getElem? hk]
    split
    · rename_i party command u place ho
      obtain ⟨hphase, hstore, hdrafts⟩ :=
        Disk.settle_congr h.store (h.drafts k _ u place hk ho rfl) u fault audit
      refine h.reach hk ho hphase hstore hdrafts fun v q hdrafted => ?_
      rcases w.disk.settle_cases u place fault audit with ⟨_, -, -, hsettle⟩ | ⟨-, hsettle⟩
      · rw [hsettle] at hdrafted
        cases hdrafted
      · rw [hsettle] at hdrafted
        cases hdrafted
    · exact h

/-- The operation itself gets on, and changes nothing that the others need. -/
theorem reach_own (h : Lacks n w' w) (ho : w.operations[n]? = some o) {x : Disk × Phase}
    (hstore : x.1.store = w.store)
    (hdrafts : ∀ k o' u place, k ≠ n → w.operations[k]? = some o' → o'.phase = .drafted u place →
      x.1.drafts.at? place = w.disk.drafts.at? place) : Lacks n w' (w.reach n o x) where
  store := h.store.trans hstore.symm
  told := h.told
  operations := by
    show _ = (w.operations.set n _).eraseIdx n
    rw [h.operations, List.eraseIdx_set_eq]
  drafts k o' u place hk ho' hdrafted := by
    rcases getElem?_reach_cases ho ho' with ⟨rfl, -⟩ | ⟨-, ho'⟩
    · exact absurd rfl hk
    · exact (h.drafts k o' u place hk ho' hdrafted).trans
        (hdrafts k o' u place hk ho' hdrafted).symm

/-- An action of the operation itself keeps the situations alike if nothing is written, and what it
drafts is not in the place of another draft. -/
theorem advance_own (h : Lacks n w' w) {a : Action} (hown : w.isOf n a = true)
    (hunwritten : ∀ audit o u place x, a = .settle n none audit → w.operations[n]? = some o →
      o.phase = .drafted u place → w.disk.drafts.at? place ≠ some x)
    (hapart : ∀ o u place, w.operations[n]? = some o → o.phase = .staged u →
      w.store.placeFor u.document.definition.id = .ok place →
      ∀ k o' v place', k ≠ n → w.operations[k]? = some o' → o'.phase = .drafted v place' →
      place ≠ place') : Lacks n w' (s.advance w a) := by
  have hstep := s.advances w a
  generalize s.advance w a = w'' at hstep
  have hput : ∀ {o u place x}, w.operations[n]? = some o → o.phase = .staged u →
      w.store.placeFor u.document.definition.id = .ok place →
      ∀ k o' v place', k ≠ n → w.operations[k]? = some o' → o'.phase = .drafted v place' →
      (w.disk.drafts.put place x).at? place' = w.disk.drafts.at? place' := by
    intro o u place x ho hphase hplace k o' v place' hk ho' hdrafted
    rw [Store.at?_put, if_neg (hapart o u place ho hphase hplace k o' v place' hk ho' hdrafted)]
  cases hstep with
  | waits | idle | unready => exact h
  | told => cases hown
  | looked =>
    have hn : w.operations.length = n := of_decide_eq_true hown
    refine ⟨h.store, h.told, ?_, ?_⟩
    · rw [h.operations, ← hn, List.eraseIdx_append_of_length_le (Nat.le_refl _), Nat.sub_self,
        List.eraseIdx_of_length_le (Nat.le_refl _), List.eraseIdx_cons_zero, List.append_nil]
    · intro k o u place hk ho hdrafted
      rcases getElem?_concat_cases ho with ho | ⟨rfl, -⟩
      · exact h.drafts k o u place hk ho hdrafted
      · exact absurd hn hk
  | entered operation | refused operation =>
    obtain rfl := of_decide_eq_true hown
    exact h.reach_own operation rfl fun _ _ _ _ _ _ _ => rfl
  | drafted operation phase leads =>
    obtain rfl := of_decide_eq_true hown
    exact h.reach_own operation rfl (hput operation phase leads)
  | undrafted operation phase _ _ left =>
    obtain rfl := of_decide_eq_true hown
    rcases left with rfl | ⟨place, leads, rfl⟩
    · exact h.reach_own operation rfl fun _ _ _ _ _ _ _ => rfl
    · exact h.reach_own operation rfl (hput operation phase leads)
  | settled operation phase draft =>
    obtain rfl := of_decide_eq_true hown
    exact absurd draft (hunwritten _ _ _ _ _ rfl operation phase)
  | unsettled operation =>
    obtain rfl := of_decide_eq_true hown
    exact h.reach_own operation rfl fun _ _ _ _ _ _ _ => rfl

end Situation.Lacks

/-! ## What becomes of a unit of work -/

/-- The operation has been in a unit of work: it still is, or it has gone through, or the writing
has failed. -/
def Phase.HasStaged (phase : Phase) : Prop :=
  phase.work?.isSome = true ∨ ∃ answer, phase = .ended answer ∧
    ∀ r, answer = .error r → r.isOfWriting = true

/-- An operation that has been in a unit of work is only refused by the writing. -/
theorem Phase.HasStaged.isOfWriting {phase : Phase} (h : phase.HasStaged) {r : Refusal}
    (hr : phase.answer? = some (.error r)) : r.isOfWriting = true := by
  rcases h with h | ⟨answer, rfl, hwriting⟩
  · cases phase with
    | planned | staged | drafted => cases hr
    | ended => cases h
  · exact hwriting r (Option.some.inj hr)

theorem Work.noAuditLog_of_answer {u : Work} {audit : Option String} {r : Refusal}
    (h : u.answer audit = .error r) : ∃ message, r = .noAuditLog message := by
  unfold answer at h
  split at h
  · cases h
    exact ⟨_, rfl⟩
  · cases h

namespace Service

variable {s : Service} {w : Situation} {as bs : List Action} {n : Nat}

/-- An action that waits does not happen. -/
theorem advance_of_waits {a : Action} (h : w.waits a = true) : s.advance w a = w := by
  cases a with
  | enter k supply =>
    simp only [Situation.waits] at h
    simp only [advance]
    split
    · rename_i ho
      rw [ho] at h
      exact if_pos h
    · rfl
  | _ => cases h

/-- An operation that has been in a unit of work has been so from then on. -/
theorem hasStaged_of_prefix (h : bs <+: as) {o : Operation}
    (ho : (s.situation bs).operations[n]? = some o) (hstaged : o.phase.HasStaged) :
    ∃ o', (s.situation as).operations[n]? = some o' ∧ o'.phase.HasStaged := by
  have hkept : ∀ x y : Phase, x.Next y → x.HasStaged → y.HasStaged := by
    intro x y hnext hx
    cases hnext with
    | entered | drafted => exact .inl rfl
    | refused =>
      rcases hx with hx | ⟨_, hx, -⟩
      · cases hx
      · cases hx
    | undrafted writing => exact .inr ⟨_, rfl, fun r hr => by cases hr; exact writing⟩
    | settled =>
      refine .inr ⟨_, rfl, fun r hr => ?_⟩
      obtain ⟨_, rfl⟩ := Work.noAuditLog_of_answer hr
      rfl
    | unsettled => exact .inr ⟨_, rfl, fun r hr => by cases hr; rfl⟩
  obtain ⟨phase, hphase, hstaged⟩ := kept_of_prefix hkept h ho hstaged
  exact ⟨_, hphase, hstaged⟩

/-- At every moment, the situation without an operation that ends with a refusal is alike, be it
that the refusal comes before the writing or that no units of work for one place overlap. -/
theorem lacks_without {r : Refusal} (hr : (s.situation as).answer? n = some (.error r))
    (hunlogged : ∀ message, r ≠ .noAuditLog message)
    (h : r.isOfWriting = false ∨ s.IsOrderly as) (hbs : bs <+: as) :
    Situation.Lacks n (s.situation (s.without n bs)) (s.situation bs) := by
  induction bs using List.reverseRecOn with
  | nil => exact .calm s n
  | append_singleton bs a ih =>
    have hprefix : bs <+: as := (List.prefix_append _ _).trans hbs
    have hlacks := ih hprefix
    rw [without_concat]
    cases hown : (s.situation bs).isOf n a with
    | true =>
      rw [Bool.true_or, if_pos rfl, List.append_nil, situation_concat]
      refine hlacks.advance_own hown ?_ ?_
      · -- otherwise the answer would be another one
        rintro audit o u place x rfl ho hphase hx
        have hanswer : (s.situation (bs ++ [.settle n none audit])).answer? n =
            some (u.answer audit) := by
          rw [situation_concat, advance_settle ho hphase, Situation.answer?,
            Situation.getElem?_reach ho, if_pos rfl, Option.bind_some]
          rcases (s.situation bs).disk.settle_cases u place none audit with
            ⟨_, -, -, hsettle⟩ | ⟨hlost, -⟩
          · rw [hsettle]
            rfl
          · cases hx.symm.trans (hlost rfl)
        have hlater := answer_of_prefix hbs hanswer
        rw [hr, Option.some.injEq] at hlater
        obtain ⟨message, hmessage⟩ := Work.noAuditLog_of_answer hlater.symm
        exact hunlogged message hmessage
      · intro o u place ho hphase hplace k o' v place' hk ho' hdrafted
        have hu : o.phase.work? = some u := Phase.work?_of_staged hphase
        have hv : o'.phase.work? = some v := Phase.work?_of_drafted hdrafted
        rcases h with hearly | horderly
        · -- the refusal would be one of the writing
          obtain ⟨o'', ho'', hstaged⟩ := hasStaged_of_prefix hprefix ho (.inl (hu ▸ rfl))
          rw [Situation.answer?, ho'', Option.bind_some] at hr
          cases hearly.symm.trans (hstaged.isOfWriting hr)
        · obtain ⟨cs, rfl⟩ := hprefix
          have hbs := horderly.of_append
          obtain ⟨hplace', -, -⟩ := (follows_serial hbs).drafted k o' v place' ho' hdrafted
          exact Situation.place_ne hbs.places (Ne.symm hk) ho ho' hu hv hplace hplace'
    | false =>
      cases hwaits : (s.situation bs).waits a with
      | true =>
        rw [Bool.false_or, if_pos rfl, List.append_nil, situation_concat, advance_of_waits hwaits]
        exact hlacks
      | false =>
        rw [Bool.false_or, if_neg Bool.false_ne_true, situation_concat, situation_concat]
        exact hlacks.advance hown hwaits

end Service

/-- **Refused operations are unseen.** Whoever only reads changes nothing. And in every schedule in
which an operation is refused, whatever it is and whoever asks for it, be it at its look or in its
unit of work: what is stored at any moment is what would be stored without that operation, all
others have come as far, and whoever reads is told the same. That also goes for refusals of the
writing itself, as long as no two units of work for one place overlap; only a refusal of the audit
log comes when the publication has been written. -/
theorem refused_unseen (s : Service) (as : List Action) :
    (∀ party inquiry, (s.situation (as ++ [.inquire party inquiry])).disk = (s.situation as).disk ∧
      (s.situation (as ++ [.inquire party inquiry])).operations = (s.situation as).operations) ∧
    ∀ n r, (s.situation as).answer? n = some (.error r) →
      (∀ message, r ≠ .noAuditLog message) → (r.isOfWriting = false ∨ s.IsOrderly as) →
      ∀ i, (s.situation (as.take i)).store = (s.situation (s.without n (as.take i))).store ∧
        (s.situation (as.take i)).told = (s.situation (s.without n (as.take i))).told ∧
        (s.situation (as.take i)).operations.eraseIdx n =
          (s.situation (s.without n (as.take i))).operations := by
  refine ⟨fun party inquiry => ?_, fun n r hr hunlogged h i => ?_⟩
  · rw [Service.situation_concat]
    exact ⟨rfl, rfl⟩
  · have hlacks := Service.lacks_without hr hunlogged h (List.take_prefix i as)
    exact ⟨hlacks.store.symm, hlacks.told.symm, hlacks.operations.symm⟩

namespace Sample

/-- What the owner asks for before the last operation acts. -/
def inquiry : Action := .inquire owner (.versions "definition-0")

/-- Of two publications the later one is refused, and the owner looks at the versions. -/
def inquiring : List Action :=
  before.flatMap Move.actions ++ inquiry :: (act 3 7).actions

end Sample

/-- Of two publications the later one is refused, and the owner sees the same versions without it.
-/
theorem refused_unseen_of_late :
    (Sample.service.situation Sample.inquiring).answer? 1 =
        some (.error (.alreadyPublished "1.0.0")) ∧
      (Sample.service.situation Sample.inquiring).told.length = 1 ∧
      (Sample.service.situation Sample.inquiring).told =
        (Sample.service.situation (Sample.service.without 1 Sample.inquiring)).told ∧
      ∀ i, (Sample.service.situation (Sample.inquiring.take i)).store =
        (Sample.service.situation (Sample.service.without 1 (Sample.inquiring.take i))).store := by
  have hrefused : (Sample.service.situation Sample.inquiring).answer? 1 =
      some (.error (.alreadyPublished "1.0.0")) := by
    decide +kernel
  obtain ⟨-, hunseen⟩ := refused_unseen Sample.service Sample.inquiring
  have hunseen := hunseen 1 _ hrefused nofun (.inl rfl)
  obtain ⟨-, htold, -⟩ := hunseen Sample.inquiring.length
  rw [List.take_length] at htold
  exact ⟨hrefused, by decide +kernel, htold, fun i => (hunseen i).1⟩

end WorkflowRelease
