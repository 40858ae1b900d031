import WorkflowRelease.Structure.Validate

/-!
# What each rule reports

Every rule reports under its own code, and all that it reports are errors (`Breaches`). So of the
issues in a verdict, those under the code of a rule for saving are what that rule has found. Main
statement: `filter_validate`.
-/

namespace WorkflowRelease

@[simp] theorem Issue.code_broken (rule : Rule) (message : String) :
    (Issue.broken rule message).code = rule.code := rfl

@[simp] theorem Issue.code_atNode (i : Issue) (id : String) : (i.atNode id).code = i.code := rfl

@[simp] theorem Issue.code_atEdge (i : Issue) (id : String) : (i.atEdge id).code = i.code := rfl

namespace Structure

@[simp] theorem isError_atNode (i : Issue) (id : String) : (i.atNode id).isError = i.isError := rfl

@[simp] theorem isError_atEdge (i : Issue) (id : String) : (i.atEdge id).isError = i.isError := rfl

/-- All the issues are errors under the code of the rule. -/
def Breaches (rule : Rule) (issues : List Issue) : Prop :=
  ∀ i ∈ issues, i.code = rule.code ∧ i.isError = true

variable {rule : Rule}

@[simp] theorem breaches_nil : Breaches rule [] := by simp [Breaches]

@[simp] theorem breaches_cons {i : Issue} {issues : List Issue} :
    Breaches rule (i :: issues) ↔
      (i.code = rule.code ∧ i.isError = true) ∧ Breaches rule issues := by
  simp [Breaches]

@[simp] theorem breaches_append {issues issues' : List Issue} :
    Breaches rule (issues ++ issues') ↔ Breaches rule issues ∧ Breaches rule issues' :=
  List.forall_mem_append

theorem breaches_map {α : Type} {f : α → Issue} {as : List α}
    (h : ∀ a ∈ as, (f a).code = rule.code ∧ (f a).isError = true) :
    Breaches rule (as.map f) := by
  simpa [Breaches] using h

theorem breaches_filterMap {α : Type} {f : α → Option Issue} {as : List α}
    (h : ∀ a ∈ as, ∀ i, f a = some i → i.code = rule.code ∧ i.isError = true) :
    Breaches rule (as.filterMap f) := by
  intro i hi
  obtain ⟨a, ha, hf⟩ := List.mem_filterMap.1 hi
  exact h a ha i hf

/-- Most rules report each node for which something does not hold. -/
theorem breaches_filterMap_ite {α : Type} {f : α → Issue} {p : α → Prop} [DecidablePred p]
    {as : List α} (h : ∀ a, (f a).code = rule.code ∧ (f a).isError = true) :
    Breaches rule (as.filterMap fun a => if p a then some (f a) else none) := by
  refine breaches_filterMap fun a _ i hi => ?_
  split at hi
  · cases hi
    exact h a
  · cases hi

theorem breaches_flatMap {α : Type} {f : α → List Issue} {as : List α}
    (h : ∀ a ∈ as, Breaches rule (f a)) : Breaches rule (as.flatMap f) := by
  intro i hi
  obtain ⟨a, ha, hf⟩ := List.mem_flatMap.1 hi
  exact h a ha i hf

/-- Of breaches of one rule, those with the code of another one are none. -/
theorem Breaches.filter_eq {issues : List Issue} (h : Breaches rule issues) (code : String) :
    issues.filter (·.code = code) = if rule.code = code then issues else [] := by
  split
  · rename_i heq
    exact List.filter_eq_self.2 fun i hi => by simpa [heq] using (h i hi).1
  · rename_i hne
    refine List.filter_eq_nil_iff.2 fun i hi => ?_
    simpa [(h i hi).1] using hne

/-! ## Rules for saving -/

section Saving

variable (w : Workflow) (g : Graph)

theorem breaches_requiredFields : Breaches .requiredFields (requiredFields w) := by
  unfold requiredFields
  split <;> simp

theorem breaches_uniqueIds : Breaches .uniqueIds (uniqueIds w) := by
  unfold uniqueIds
  exact breaches_append.2 ⟨breaches_map (by simp), breaches_map (by simp)⟩

theorem breaches_edgeEnds : Breaches .edgeEnds (edgeEnds w g) := by
  refine breaches_filterMap fun e _ i hi => ?_
  split at hi
  · cases hi
  · cases hi
    simp

theorem breaches_connected : Breaches .connected (connected g) :=
  breaches_filterMap_ite (by simp)

theorem breaches_chainIssues (n : Node) (incoming outgoing : Nat) :
    Breaches .singleChain (chainIssues n incoming outgoing) := by
  unfold chainIssues
  rw [breaches_append]
  constructor
  · split <;> simp
  · split
    · simp
    · split
      · simp
      · split <;> simp

theorem breaches_singleChain : Breaches .singleChain (singleChain w g) := by
  unfold singleChain
  split
  · exact breaches_flatMap fun n _ => breaches_chainIssues n _ _
  · simp

theorem breaches_acyclic : Breaches .acyclic (acyclic w g) := by
  unfold acyclic
  split
  · split <;> simp
  · simp

theorem breaches_debateRoles : Breaches .debateRoles (debateRoles w g) := by
  unfold debateRoles
  split
  · rw [breaches_append]
    constructor
    · split <;> simp
    · split
      · simp
      · exact breaches_filterMap_ite (by simp)
  · simp

theorem breaches_joinedBranches : Breaches .joinedBranches (joinedBranches w g) := by
  unfold joinedBranches
  split
  · exact breaches_filterMap_ite (by simp)
  · simp

theorem breaches_approvalOutputs (outputTypes : List String) :
    Breaches .approvalOutputs (approvalOutputs outputTypes g) :=
  breaches_flatMap fun n _ => breaches_map (by simp)

theorem breaches_quorum : Breaches .quorum (quorum g) := by
  refine breaches_filterMap fun n _ i hi => ?_
  split at hi
  · split at hi
    · cases hi
      simp
    · cases hi
  · cases hi

theorem breaches_edgeFieldTypes (e : Edge) : Breaches .fieldTypes (edgeFieldTypes g e) := by
  unfold edgeFieldTypes
  split
  · split
    · refine breaches_filterMap fun paths _ i hi => ?_
      unfold pairFault? at hi
      split at hi
      · split at hi
        · cases hi
        · cases hi
          simp
      · cases hi
    · simp
  · simp

theorem breaches_fieldTypes : Breaches .fieldTypes (fieldTypes w g) :=
  breaches_flatMap fun e _ => breaches_edgeFieldTypes g e

theorem breach_of_referenceFault? {n : Node} {ref : Expression} {i : Issue}
    (h : referenceFault? g n ref = some i) :
    i.code = Rule.bindingSources.code ∧ i.isError = true := by
  unfold referenceFault? at h
  split at h
  · cases h
  · split at h
    · cases h
      simp
    · split at h
      · cases h
      · split at h
        · cases h
        · cases h
          simp

theorem breaches_bindingSources : Breaches .bindingSources (bindingSources g) :=
  breaches_flatMap fun _ _ => breaches_filterMap fun _ _ _ h => breach_of_referenceFault? g h

theorem breaches_parameters : Breaches .parameters (parameters w) := by
  unfold parameters
  split <;> simp

theorem breaches_mergeFanIn : Breaches .mergeFanIn (mergeFanIn g) :=
  breaches_filterMap_ite (by simp)

theorem breaches_conditions : Breaches .conditions (conditions w) := by
  refine breaches_filterMap fun e _ i hi => ?_
  obtain ⟨what, -, rfl⟩ := Option.map_eq_some_iff.1 hi
  simp

end Saving

/-! ## Further rules for publishing -/

section Publishing

variable (w : Workflow) (g : Graph)

theorem breaches_riskGate : Breaches .riskGate (riskGate g) := by
  unfold riskGate
  split <;> simp

theorem breaches_runPolicy : Breaches .runPolicy (runPolicy w g) := by
  refine breaches_filterMap fun n _ i hi => ?_
  split at hi
  · cases hi
  · split at hi
    · cases hi
    · cases hi
      simp

theorem breaches_evidence : Breaches .evidence (evidence g) := by
  unfold evidence
  dsimp only
  split
  · simp
  · split <;> simp

@[simp] theorem breach_rolloutIssue (message : String) :
    (rolloutIssue message).code = Rule.rollout.code ∧ (rolloutIssue message).isError = true :=
  ⟨rfl, rfl⟩

/-- What comes of a computation, if anything does, has the property. -/
def Yields {α : Type} (x : Except Overflow α) (p : α → Prop) : Prop := ∀ a, x = .ok a → p a

theorem yields_ok {α : Type} {p : α → Prop} {a : α} (h : p a) : Yields (.ok a) p := by
  rintro _ ⟨⟩
  exact h

theorem yields_bind {α β : Type} {x : Except Overflow α} {f : α → Except Overflow β}
    {p : α → Prop} {q : β → Prop} (hx : Yields x p) (hf : ∀ a, p a → Yields (f a) q) :
    Yields (x >>= f) q := by
  intro b hb
  cases x with
  | error e => cases hb
  | ok a => exact hf a (hx a rfl) b hb

/-- Whatever the first step comes to. -/
theorem yields_bind_of_forall {α β : Type} {x : Except Overflow α} {f : α → Except Overflow β}
    {q : β → Prop} (hf : ∀ a, Yields (f a) q) : Yields (x >>= f) q :=
  yields_bind (p := fun _ => True) (fun _ _ => trivial) fun a _ => hf a

theorem breaches_variantIssues (total : Binary64) (variants : List Json) :
    Yields (variantIssues total variants) fun r => Breaches .rollout r.1 := by
  induction variants generalizing total with
  | nil => exact yields_ok breaches_nil
  | cons v rest ih =>
    cases v with
    | object o =>
      have hversion : Breaches .rollout (if hasText o "version" then []
          else [rolloutIssue "variants[].version must be a non-empty string"]) := by
        split <;> simp
      refine yields_bind_of_forall ?_
      rintro (_ | x)
      · exact yields_bind (ih total) fun r hr => yields_ok (by simp [hversion, hr])
      · dsimp only
        split
        · exact yields_bind (ih total) fun r hr => yields_ok (by simp [hversion, hr])
        · exact yields_bind (ih _) fun r hr => yields_ok (by simp [hversion, hr])
    | _ => exact yields_bind (ih total) fun r hr => yields_ok (by simp [hr])

theorem breaches_splitPolicyIssues (experiment : Fields) :
    Breaches .rollout (splitPolicyIssues experiment) := by
  unfold splitPolicyIssues splitPolicyIssues.issue
  split
  · simp
  · split <;> simp
  · simp

theorem breaches_autoStopIssues (experiment : Fields) :
    Yields (autoStopIssues experiment) (Breaches .rollout) := by
  unfold autoStopIssues
  split
  · split
    · refine yields_bind_of_forall fun share => ?_
      split <;> exact yields_ok (by simp)
    · exact yields_ok breaches_nil
  · exact yields_ok breaches_nil

theorem breaches_experimentIssues (experiment : Fields) :
    Yields (experimentIssues experiment) (Breaches .rollout) := by
  have hcode : Breaches .rollout (if hasText experiment "experimentCode" then []
      else [rolloutIssue "enabled=true requires experimentCode"]) := by
    split <;> simp
  unfold experimentIssues
  dsimp only
  split
  · exact yields_ok (by simp [hcode])
  · refine yields_bind (breaches_variantIssues _ _) fun r hr => ?_
    refine yields_bind (breaches_autoStopIssues experiment) fun stop hstop => yields_ok ?_
    simp only [breaches_append, hcode, hr, hstop, breaches_splitPolicyIssues, true_and, and_true]
    split <;> simp

theorem breaches_rollout : Yields (rollout w) (Breaches .rollout) := by
  unfold rollout
  split
  · split
    · exact breaches_experimentIssues _
    · exact yields_ok breaches_nil
  · exact yields_ok breaches_nil

end Publishing

/-! ## Issues of one rule -/

/-- What a rule for saving finds. -/
def found (outputTypes : List String) (w : Workflow) : Rule → List Issue
  | .requiredFields => requiredFields w
  | .uniqueIds => uniqueIds w
  | .edgeEnds => edgeEnds w (Graph.ofWorkflow w)
  | .connected => connected (Graph.ofWorkflow w)
  | .singleChain => singleChain w (Graph.ofWorkflow w)
  | .acyclic => acyclic w (Graph.ofWorkflow w)
  | .debateRoles => debateRoles w (Graph.ofWorkflow w)
  | .joinedBranches => joinedBranches w (Graph.ofWorkflow w)
  | .approvalOutputs => approvalOutputs outputTypes (Graph.ofWorkflow w)
  | .quorum => quorum (Graph.ofWorkflow w)
  | .fieldTypes => fieldTypes w (Graph.ofWorkflow w)
  | .bindingSources => bindingSources (Graph.ofWorkflow w)
  | .parameters => parameters w
  | .mergeFanIn => mergeFanIn (Graph.ofWorkflow w)
  | .conditions => conditions w
  | _ => []

variable {outputTypes : List String} {w : Workflow} {stage : Stage} {verdict : Verdict}

theorem filter_saveIssues (rule : Rule) :
    (saveIssues outputTypes w).filter (·.code = rule.code) = found outputTypes w rule := by
  simp only [saveIssues, List.filter_append, (breaches_requiredFields w).filter_eq,
    (breaches_uniqueIds w).filter_eq, (breaches_edgeEnds w _).filter_eq,
    (breaches_connected _).filter_eq, (breaches_singleChain w _).filter_eq,
    (breaches_acyclic w _).filter_eq, (breaches_debateRoles w _).filter_eq,
    (breaches_joinedBranches w _).filter_eq, (breaches_approvalOutputs _ _).filter_eq,
    (breaches_quorum _).filter_eq, (breaches_fieldTypes w _).filter_eq,
    (breaches_bindingSources _).filter_eq, (breaches_parameters w).filter_eq,
    (breaches_mergeFanIn _).filter_eq, (breaches_conditions w).filter_eq]
  -- each rule has a code of its own
  cases rule <;> simp [Rule.code, found]

theorem filter_publishIssues {further : List Issue} (h : publishIssues w = .ok further)
    (hrule : rule ∉ [Rule.riskGate, .runPolicy, .evidence, .rollout]) :
    further.filter (·.code = rule.code) = [] := by
  rw [publishIssues] at h
  cases hr : rollout w with
  | error e => simp [hr, bind, Except.bind] at h
  | ok experiment =>
    simp only [hr, bind, Except.bind, Except.ok.injEq] at h
    simp only [← h, List.filter_append, (breaches_riskGate _).filter_eq,
      (breaches_runPolicy _ _).filter_eq, (breaches_evidence _).filter_eq,
      (breaches_rollout w experiment hr).filter_eq]
    cases rule <;> simp_all [Rule.code]

/-- **The issues under the code of a rule for saving** are what that rule has found, whatever the
stage. -/
theorem filter_validate (h : validate outputTypes w stage = .ok verdict) (rule : Rule)
    (hrule : rule ∉ [Rule.riskGate, .runPolicy, .evidence, .rollout]) :
    verdict.issues.filter (·.code = rule.code) = found outputTypes w rule := by
  rw [← filter_saveIssues]
  cases stage with
  | save =>
    rw [validate_save, Except.ok.injEq] at h
    rw [← h]
  | publish =>
    obtain ⟨further, hfurther, hissues⟩ := issues_validate_publish h
    rw [hissues, List.filter_append, filter_publishIssues hfurther hrule, List.append_nil]

/-- A rule for saving is reported iff it has found something. -/
theorem mem_codes_validate (h : validate outputTypes w stage = .ok verdict) (rule : Rule)
    (hrule : rule ∉ [Rule.riskGate, .runPolicy, .evidence, .rollout]) :
    rule.code ∈ verdict.codes ↔ found outputTypes w rule ≠ [] := by
  rw [← filter_validate h rule hrule, Verdict.codes, List.mem_map, ne_eq, List.filter_eq_nil_iff]
  simp

theorem not_mem_codes_validate (h : validate outputTypes w stage = .ok verdict) (rule : Rule)
    (hrule : rule ∉ [Rule.riskGate, .runPolicy, .evidence, .rollout]) :
    rule.code ∉ verdict.codes ↔ found outputTypes w rule = [] := by
  rw [mem_codes_validate h rule hrule, ne_eq, Classical.not_not]

end Structure

end WorkflowRelease
