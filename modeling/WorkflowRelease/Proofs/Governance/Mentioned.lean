import WorkflowRelease.Workflow.References

/-!
# What a workflow mentions

The codes that a workflow refers to, said without the walk that collects them. A text stands in a
value when a way down through lists and objects leads to it, a parameter is mentioned when an
expression in such a text names it, and what a node refers to follows from its type. Main
statements: `Json.mem_textLeaves`, the walk finds every text, and `Workflow.mem_parameterCodes`,
`Workflow.mem_rulePackCodes` and `Workflow.mem_agentCodes`, the references are what is mentioned.
-/

namespace WorkflowRelease

/-! ## Texts of a value -/

namespace Json

/-- A text stands somewhere in a value. The keys of an object are no texts of it. -/
inductive HasText : Json → String → Prop
  | here (s : String) : HasText (.text s) s
  | item {items : List Json} {v : Json} {s : String} (mem : v ∈ items) (has : HasText v s) :
      HasText (.list items) s
  | entry {fields : List (String × Json)} {v : Json} {s : String}
      (mem : v ∈ Fields.values fields) (has : HasText v s) : HasText (.object fields) s

@[simp] theorem hasText_text {t s : String} : HasText (.text t) s ↔ s = t := by
  constructor
  · rintro ⟨⟩
    rfl
  · rintro rfl
    exact .here s

@[simp] theorem hasText_list {items : List Json} {s : String} :
    HasText (.list items) s ↔ ∃ v ∈ items, HasText v s := by
  constructor
  · rintro (_ | ⟨mem, has⟩)
    exact ⟨_, mem, has⟩
  · rintro ⟨v, mem, has⟩
    exact .item mem has

@[simp] theorem hasText_object {fields : Fields} {s : String} :
    HasText (.object fields) s ↔ ∃ v ∈ fields.values, HasText v s := by
  constructor
  · rintro (_ | _ | ⟨mem, has⟩)
    exact ⟨_, mem, has⟩
  · rintro ⟨v, mem, has⟩
    exact .entry mem has

@[simp] theorem not_hasText_null (s : String) : ¬ HasText .null s := nofun

@[simp] theorem not_hasText_bool (b : Bool) (s : String) : ¬ HasText (.bool b) s := nofun

@[simp] theorem not_hasText_int (n : Int) (s : String) : ¬ HasText (.int n) s := nofun

@[simp] theorem not_hasText_float (x : Binary64) (s : String) : ¬ HasText (.float x) s := nofun

/-- **The walk finds every text** of the values in its queue, and no other. -/
theorem mem_textLeaves {s : String} {pending : List Json} :
    s ∈ textLeaves pending ↔ ∃ v ∈ pending, HasText v s := by
  fun_induction textLeaves pending with
  | case1 => simp
  | case2 t rest ih => simp [ih]
  | case3 items rest ih => simp [ih, or_and_right, exists_or, or_comm]
  | case4 fields rest ih => simp [ih, or_and_right, exists_or, or_comm]
  | case5 rest ih => simp [ih]
  | case6 b rest ih => simp [ih]
  | case7 n rest ih => simp [ih]
  | case8 x rest ih => simp [ih]

end Json

/-! ## Parameters -/

/-- A value of the workflow that may hold template expressions. -/
inductive Workflow.Carries (w : Workflow) : Json → Prop
  | config {n : Node} (node : n ∈ w.nodes) : Carries w (.object n.config)
  | bindings {n : Node} {o : Fields} (node : n ∈ w.nodes) (bound : n.inputBindings = some o) :
      Carries w (.object o)
  | condition {e : Edge} {v : Json} (edge : e ∈ w.edges) (given : e.condition = some v) :
      Carries w v

/-- An expression in a text of the workflow names the parameter. One that ends after its scope names
none. -/
def Workflow.Mentions (w : Workflow) (code : String) : Prop :=
  ∃ v s e, w.Carries v ∧ v.HasText s ∧ e ∈ Expression.scan s ∧
    e.scope = Expression.paramsScope ∧ e.head = code ∧ code ≠ ""

theorem Expression.mem_inValues {values : List Json} {e : Expression} :
    e ∈ inValues values ↔ ∃ v ∈ values, ∃ s, v.HasText s ∧ e ∈ scan s := by
  simp [inValues, Json.mem_textLeaves]

namespace Workflow

/-- What is scanned is what may hold expressions, and `null` for what is not given. -/
theorem mem_templated {w : Workflow} {v : Json} (h : v ≠ .null) :
    v ∈ w.templated ↔ w.Carries v := by
  simp only [templated, List.mem_append, List.mem_flatMap, List.mem_map]
  constructor
  · rintro (⟨n, hn, hv⟩ | ⟨e, he, rfl⟩)
    · rcases List.mem_cons.1 hv with rfl | hv
      · exact .config hn
      · rw [List.mem_singleton.1 hv] at h ⊢
        cases hb : n.inputBindings with
        | none => exact absurd (by simp [hb]) h
        | some o => exact .bindings hn hb
    · cases hc : e.condition with
      | none => exact absurd (by simp [Edge.templated, hc]) h
      | some v =>
        rw [Edge.templated, hc]
        exact .condition he hc
  · rintro (hn | ⟨hn, hb⟩ | ⟨he, hc⟩)
    · exact .inl ⟨_, hn, by simp [Node.templated]⟩
    · exact .inl ⟨_, hn, by simp [Node.templated, hb]⟩
    · exact .inr ⟨_, he, by simp [Edge.templated, hc]⟩

/-- **Parameter references** are the parameters that are mentioned. -/
theorem mem_parameterCodes {w : Workflow} {code : String} :
    code ∈ w.parameterCodes ↔ w.Mentions code := by
  simp only [parameterCodes, Expression.mem_parameterCodes, Expression.mem_inValues]
  constructor
  · rintro ⟨hne, e, ⟨v, hv, s, hs, he⟩, hscope, hhead⟩
    have hnull : v ≠ .null := by
      rintro rfl
      exact Json.not_hasText_null s hs
    exact ⟨v, s, e, (mem_templated hnull).1 hv, hs, he, hscope, hhead, hne⟩
  · rintro ⟨v, s, e, hv, hs, he, hscope, hhead, hne⟩
    have hnull : v ≠ .null := by
      rintro rfl
      exact Json.not_hasText_null s hs
    exact ⟨hne, e, ⟨v, (mem_templated hnull).2 hv, s, hs, he⟩, hscope, hhead⟩

end Workflow

/-! ## Nodes that refer to something -/

namespace Node

/-- The node evaluates rule packs. -/
def EvaluatesPacks (n : Node) : Prop := n.type ∈ ruleTypes ∧ n.ruleSource = .decisionPack

/-- A branch that cannot give the value is not taken. -/
theorem ite_eq_iff_of_ne {α : Type} {c : Prop} [Decidable c] {a b d : α} (ha : a ≠ d) :
    (if c then a else b) = d ↔ ¬ c ∧ b = d := by
  by_cases hc : c <;> simp [hc, ha]

theorem kind_eq_rule_iff {n : Node} {source : RuleSource} {codes : List String} :
    n.kind = .rule source codes ↔
      n.type ∈ ruleTypes ∧ n.ruleSource = source ∧ n.packCodes = codes := by
  constructor
  · intro h
    unfold kind at h
    -- eight types are asked for before the rule types, and give another kind each
    iterate 8 rw [ite_eq_iff_of_ne (by nofun)] at h; replace h := h.2
    by_cases ht : n.type ∈ ruleTypes
    · rw [if_pos ht] at h
      cases h
      exact ⟨ht, rfl, rfl⟩
    · rw [if_neg ht] at h
      iterate 3 rw [ite_eq_iff_of_ne (by nofun)] at h; replace h := h.2
      cases h
  · rintro ⟨ht, rfl, rfl⟩
    simp only [ruleTypes, List.mem_cons, List.not_mem_nil, or_false] at ht
    rcases ht with ht | ht | ht <;> rw [kind, ht] <;> rfl

theorem kind_eq_agent_iff {n : Node} {code : Option String} :
    n.kind = .agent code ↔ n.type ∈ agentTypes ∧ n.configCode? "agentProfileCode" = code := by
  constructor
  · intro h
    unfold kind at h
    iterate 9 rw [ite_eq_iff_of_ne (by nofun)] at h; replace h := h.2
    by_cases ht : n.type ∈ agentTypes
    · rw [if_pos ht] at h
      cases h
      exact ⟨ht, rfl⟩
    · rw [if_neg ht] at h
      iterate 2 rw [ite_eq_iff_of_ne (by nofun)] at h; replace h := h.2
      cases h
  · rintro ⟨ht, rfl⟩
    simp only [agentTypes, List.mem_cons, List.not_mem_nil, or_false] at ht
    rcases ht with ht | ht | ht | ht <;> rw [kind, ht] <;> rfl

theorem kind_eq_subflow_iff {n : Node} {definitionId versionId : Option String} :
    n.kind = .subflow definitionId versionId ↔ n.type = "subflow-call" ∧
      n.configCode? "workflowDefinitionId" = definitionId ∧
      n.configCode? "workflowVersionId" = versionId := by
  constructor
  · intro h
    unfold kind at h
    iterate 6 rw [ite_eq_iff_of_ne (by nofun)] at h; replace h := h.2
    by_cases ht : n.type = "subflow-call"
    · rw [if_pos ht] at h
      cases h
      exact ⟨ht, rfl, rfl⟩
    · rw [if_neg ht] at h
      iterate 5 rw [ite_eq_iff_of_ne (by nofun)] at h; replace h := h.2
      cases h
  · rintro ⟨ht, rfl, rfl⟩
    rw [kind, ht]
    rfl

theorem mem_usedPacks {n : Node} {code : String} :
    code ∈ n.usedPacks ↔ n.EvaluatesPacks ∧ code ∈ n.packCodes := by
  unfold usedPacks
  split
  · rename_i hk
    obtain ⟨ht, hs, rfl⟩ := kind_eq_rule_iff.1 hk
    simp [EvaluatesPacks, ht, hs]
  · rename_i hk
    simp only [List.not_mem_nil, false_iff]
    rintro ⟨⟨ht, hs⟩, -⟩
    exact hk _ (kind_eq_rule_iff.2 ⟨ht, hs, rfl⟩)

theorem missingPack?_ne_none_iff {n : Node} :
    n.missingPack? ≠ none ↔ n.EvaluatesPacks ∧ n.packCodes = [] := by
  unfold missingPack?
  split
  · rename_i hk
    obtain ⟨ht, hs, hc⟩ := kind_eq_rule_iff.1 hk
    simp [EvaluatesPacks, ht, hs, hc]
  · rename_i hk
    simp only [ne_eq, not_true_eq_false, false_iff]
    rintro ⟨⟨ht, hs⟩, hc⟩
    exact hk (kind_eq_rule_iff.2 ⟨ht, hs, hc⟩)

theorem agentCode?_eq_some_iff {n : Node} {code : String} :
    n.agentCode? = some code ↔
      n.type ∈ agentTypes ∧ n.configCode? "agentProfileCode" = some code := by
  rw [← kind_eq_agent_iff]
  unfold agentCode?
  split
  · rename_i hk
    simp [hk]
  · rename_i hk
    simpa using hk (some code)

end Node

/-! ## References -/

/-- The code is one of a list, in which blanks may stand around it. -/
def Lists (texts : List String) (code : String) : Prop := ∃ s ∈ texts, code? s = some code

namespace Workflow

variable {w : Workflow} {code : String}

theorem mem_rulePackCodes : code ∈ w.references.rulePackCodes ↔
    ∃ n ∈ w.nodes, n.EvaluatesPacks ∧ code ∈ n.packCodes := by
  simp [references, Node.mem_usedPacks]

theorem mem_agentCodes : code ∈ w.references.agentCodes ↔ Lists w.agentBindings code ∨
    ∃ n ∈ w.nodes, n.type ∈ agentTypes ∧ n.configCode? "agentProfileCode" = some code := by
  simp [references, Node.agentCode?_eq_some_iff, mem_cleanCodes, Lists, or_comm]

theorem mem_boundSets : code ∈ w.boundSets ↔ Lists w.paramSetBindings code := mem_cleanCodes

theorem mem_dataConnectorCodes :
    code ∈ w.references.dataConnectorCodes ↔ Lists w.dataConnectorBindings code := by
  simp [references, mem_cleanCodes, Lists]

theorem missingPacks_ne_nil_iff : w.references.missingPacks ≠ [] ↔
    ∃ n ∈ w.nodes, n.EvaluatesPacks ∧ n.packCodes = [] := by
  simp only [references, ne_eq, List.filterMap_eq_nil_iff, Classical.not_forall, exists_prop]
  exact exists_congr fun n => and_congr_right fun _ => Node.missingPack?_ne_none_iff

end Workflow

end WorkflowRelease
