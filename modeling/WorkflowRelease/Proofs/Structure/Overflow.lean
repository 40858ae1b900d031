import WorkflowRelease.Proofs.Decimal.Range
import WorkflowRelease.Proofs.Run.Basic
import WorkflowRelease.Structure.Validate

/-!
# When validation fails

Validation is meant to come to a verdict whatever it is given. It does so for all documents, stages
and output types, but for one kind of workflow that is to be published: an experiment that is
switched on, with an integer beyond the range of doubles where a share of traffic or a threshold is
wanted. Main statements: `verdict_unless_overflow` and `trial_overflows`.
-/

namespace WorkflowRelease

/-- An integer without a double stands under the key. -/
def Fields.IsBeyond (o : Fields) (key : String) : Prop :=
  ∃ n, o.get? key = some (.int n) ∧ Binary64.overflowBound ≤ n.natAbs

/-- The threshold at which the experiment is to stop by itself is beyond the doubles. -/
def Fields.StopsBeyond (experiment : Fields) : Prop :=
  ∃ stop, experiment.get? "autoStop" = some (.object stop) ∧
    Fields.get? stop "enabled" = some (.bool true) ∧ Fields.IsBeyond stop "badCaseThreshold"

/-- The workflow has an experiment that is switched on, in which the traffic of a variant or the
threshold is beyond the doubles. With less than two variants neither is looked at. -/
def Workflow.Overflows (w : Workflow) : Prop :=
  ∃ experiment variants, w.experimentConfig = some experiment ∧
    experiment.get? "enabled" = some (.bool true) ∧
    experiment.get? "variants" = some (.list variants) ∧ 2 ≤ variants.length ∧
    ((∃ o, .object o ∈ variants ∧ Fields.IsBeyond o "traffic") ∨ experiment.StopsBeyond)

namespace Structure

/-- There is a result. -/
def Settles {α : Type} (x : Except Overflow α) : Prop := ∃ a, x = .ok a

section Settles

variable {α β : Type} {x : Except Overflow α} {f : α → Except Overflow β}

@[simp] theorem settles_ok (a : α) : Settles (.ok a : Except Overflow α) := ⟨a, rfl⟩

@[simp] theorem not_settles_error (e : Overflow) : ¬ Settles (.error e : Except Overflow α) := nofun

/-- Two steps settle if the first one does and what it leads to does, whatever that is. -/
theorem settles_bind_iff {p : Prop} (h : ∀ a, Settles (f a) ↔ p) :
    Settles (x >>= f) ↔ Settles x ∧ p := by
  cases x with
  | error e => simp [bind, Except.bind]
  | ok a => simp [bind, Except.bind, h a]

/-- A second step that always settles does not matter. -/
theorem settles_bind_of_forall (h : ∀ a, Settles (f a)) : Settles (x >>= f) ↔ Settles x := by
  rw [settles_bind_iff fun a => iff_true_intro (h a), and_true]

end Settles

/-! ## Experiments -/

theorem settles_number? {o : Fields} {key : String} :
    Settles (number? ((o.get? key).getD .null)) ↔ ¬ o.IsBeyond key := by
  cases hget : o.get? key with
  | none => simp [number?, Fields.IsBeyond, hget]
  | some v =>
    cases v with
    | int n =>
      simp only [Option.getD_some, number?, Fields.IsBeyond, hget, Option.some.injEq,
        Json.int.injEq, exists_eq_left', Nat.not_le, ← Binary64.isFinite_ofInt_iff]
      split <;> simp_all
    | _ => simp [number?, Fields.IsBeyond, hget]

theorem settles_variantIssues {total : Binary64} {variants : List Json} :
    Settles (variantIssues total variants) ↔
      ∀ o, .object o ∈ variants → ¬ Fields.IsBeyond o "traffic" := by
  induction variants generalizing total with
  | nil => simp [variantIssues]
  | cons v rest ih =>
    cases v with
    | object o =>
      simp only [List.mem_cons, Json.object.injEq, forall_eq_or_imp]
      rw [variantIssues, settles_bind_iff, settles_number?]
      -- the traffic only decides what is added to the issues and to the total
      rintro (_ | x)
      · rw [settles_bind_of_forall fun _ => settles_ok _, ih]
      · dsimp only
        split <;> rw [settles_bind_of_forall fun _ => settles_ok _, ih]
    | _ =>
      rw [variantIssues, settles_bind_of_forall fun _ => settles_ok _, ih]
      · simp
      · nofun

theorem settles_isShare {v : Json} : Settles (isShare v) ↔ Settles (number? v) := by
  refine settles_bind_of_forall ?_
  rintro (_ | x) <;> exact settles_ok _

theorem settles_autoStopIssues {experiment : Fields} :
    Settles (autoStopIssues experiment) ↔ ¬ experiment.StopsBeyond := by
  unfold autoStopIssues Fields.StopsBeyond
  split
  · rename_i stop hstop
    split
    · rename_i henabled
      rw [settles_bind_of_forall, settles_isShare, settles_number?]
      · simp [hstop, henabled]
      · intro share
        split <;> exact settles_ok _
    · rename_i henabled
      simp [hstop, henabled]
  · rename_i hstop
    refine iff_of_true (settles_ok _) ?_
    rintro ⟨stop, hget, -⟩
    exact hstop stop hget

theorem settles_experimentIssues {experiment : Fields} :
    Settles (experimentIssues experiment) ↔
      ∀ variants, experiment.get? "variants" = some (.list variants) → 2 ≤ variants.length →
        (∀ o, .object o ∈ variants → ¬ Fields.IsBeyond o "traffic") ∧
          ¬ experiment.StopsBeyond := by
  unfold experimentIssues
  dsimp only
  split
  · rename_i hfew
    refine iff_of_true (settles_ok _) ?_
    intro variants hvariants hlength
    simp only [hvariants, Option.bind_some, Json.list?, Option.getD_some] at hfew
    omega
  · rename_i hmany
    obtain ⟨variants, hvariants⟩ : ∃ vs, experiment.get? "variants" = some (.list vs) := by
      cases hget : experiment.get? "variants" with
      | none => simp [hget] at hmany
      | some v =>
        cases v with
        | list vs => exact ⟨vs, rfl⟩
        | _ => simp [hget, Json.list?] at hmany
    simp only [hvariants, Option.bind_some, Json.list?, Option.getD_some] at hmany ⊢
    rw [settles_bind_iff (p := ¬ experiment.StopsBeyond), settles_variantIssues]
    · constructor
      · rintro h _ ⟨⟩ _
        exact h
      · exact fun h => h variants rfl (Nat.not_lt.1 hmany)
    · rintro ⟨issues, total⟩
      rw [settles_bind_of_forall fun _ => settles_ok _, settles_autoStopIssues]

/-- The check of the experiment fails iff a number in it is beyond the doubles. -/
theorem settles_rollout {w : Workflow} : Settles (rollout w) ↔ ¬ w.Overflows := by
  unfold rollout
  cases hw : w.experimentConfig with
  | none => simp [Workflow.Overflows, hw]
  | some experiment =>
    dsimp only
    split
    · rename_i henabled
      rw [settles_experimentIssues]
      constructor
      · rintro h ⟨_, variants, hconfig, -, hvariants, hlength, hbeyond⟩
        rw [hw] at hconfig
        cases hconfig
        obtain ⟨htraffic, hstop⟩ := h variants hvariants hlength
        rcases hbeyond with ⟨o, ho, hbeyond⟩ | hbeyond
        · exact htraffic o ho hbeyond
        · exact hstop hbeyond
      · intro h variants hvariants hlength
        have hno := fun hbeyond =>
          h ⟨experiment, variants, hw, henabled, hvariants, hlength, hbeyond⟩
        exact ⟨fun o ho hbeyond => hno (.inl ⟨o, ho, hbeyond⟩), fun hstop => hno (.inr hstop)⟩
    · rename_i henabled
      refine iff_of_true (settles_ok _) ?_
      rintro ⟨_, variants, hconfig, henabled', -⟩
      rw [hw] at hconfig
      cases hconfig
      exact henabled henabled'

/-! ## Validation -/

theorem settles_validate {types : List String} {w : Workflow} {stage : Stage} :
    Settles (validate types w stage) ↔ ¬ (stage = .publish ∧ w.Overflows) := by
  cases stage with
  | save => simp [validate]
  | publish =>
    rw [validate, settles_bind_of_forall fun _ => settles_ok _, publishIssues,
      settles_bind_of_forall fun _ => settles_ok _, settles_rollout]
    simp

end Structure

/-- **Validation comes to a verdict** for every document, parsed or not, every stage and all output
types, unless the stage is publishing and the document is a workflow whose experiment has an integer
beyond the doubles where a number is wanted. -/
theorem verdict_unless_overflow (types : List String) (document stage : Json) (w : Workflow)
    (s : Stage) :
    ((∃ verdict, Structure.validateDocument types document stage = .ok verdict) ↔
      ¬ (Stage.named? stage = some .publish ∧
        ∃ parsed, Workflow.reader document = .valid parsed ∧ parsed.Overflows)) ∧
    ((∃ verdict, Structure.validate types w s = .ok verdict) ↔
      ¬ (s = .publish ∧ w.Overflows)) := by
  refine ⟨?_, Structure.settles_validate⟩
  unfold Structure.validateDocument
  cases hstage : Stage.named? stage with
  | none => simp
  | some s =>
    cases hread : Workflow.reader document with
    | faulty faults => simp
    | valid w =>
      have hsettles : Structure.Settles (Structure.validate types w s) ↔
          ¬ (s = .publish ∧ w.Overflows) := Structure.settles_validate
      simpa [Structure.Settles] using hsettles

namespace Sample

/-- A workflow that may be published, with an experiment. -/
def trial (traffic : Int) : Json :=
  .object ([("workflowId", .text "trial"), ("name", .text "Trial"), ("mode", .word Mode.linear),
    ("experimentConfig", .object [("enabled", .bool true), ("experimentCode", .text "x"),
      ("variants", .list [.object [("version", .text "1.0.0"), ("traffic", .int traffic)],
        .object [("version", .text "1.0.1"), ("traffic", .int 1)]])])] ++ snapshot)

end Sample

/-- There is a sum of traffic with ten to the 308th, and none with ten to the 309th. -/
theorem trial_overflows :
    (∃ verdict, Structure.validateDocument outputTypes (Sample.trial (Nat.pow 10 308))
      (.text "PUBLISH") = .ok verdict) ∧
    Structure.validateDocument outputTypes (Sample.trial (Nat.pow 10 309)) (.text "PUBLISH") =
      .error .beyondDouble := by
  have hsettles : (Structure.validateDocument outputTypes (Sample.trial (Nat.pow 10 308))
      (.text "PUBLISH")).toOption.isSome = true := by
    decide +kernel
  have hfails : (Structure.validateDocument outputTypes (Sample.trial (Nat.pow 10 309))
      (.text "PUBLISH")).toOption = none := by
    decide +kernel
  obtain ⟨verdict, hverdict⟩ := Option.isSome_iff_exists.1 hsettles
  refine ⟨⟨verdict, eq_ok_of_toOption hverdict⟩, ?_⟩
  cases hresult : Structure.validateDocument outputTypes (Sample.trial (Nat.pow 10 309))
      (.text "PUBLISH") with
  | error e => rfl
  | ok verdict =>
    rw [hresult] at hfails
    cases hfails

end WorkflowRelease
