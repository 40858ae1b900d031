import Mathlib.Algebra.GroupWithZero.Nat
import WorkflowRelease.Proofs.Governance.Seen

/-!
# Tenants

Whether a review tells anything of rows that the party may not see. Files that show the party the
same rows are told apart only where rows of others hide or lend something, and then they are: a
workflow is named that notices. Main statements: `apart_unless_crossed`, and `crossed_over`, a file
whose rows of others take a pack away and give a parameter.
-/

namespace WorkflowRelease

/-! ## Texts in a row -/

namespace Text

theorem length_intercalate {s : String} {l : List String} (h : l ≠ []) :
    (s.intercalate l).length + s.length = (l.map fun t => t.length + s.length).sum := by
  induction l with
  | nil => exact absurd rfl h
  | cons t ts ih =>
    cases ts with
    | nil => simp
    | cons u us =>
      have := ih (List.cons_ne_nil u us)
      rw [String.intercalate_cons_cons, String.length_append, String.length_append, List.map_cons,
        List.sum_cons, ← this]
      omega

/-- Texts that are put in a row with something between them take more room the more there are. -/
theorem length_intercalate_lt {s : String} (hs : 0 < s.length) {l l' : List String}
    (h : l'.Sublist l) (hne : l' ≠ l) (hnil : l' ≠ []) :
    (s.intercalate l').length < (s.intercalate l).length := by
  obtain ⟨rest, hperm⟩ := h.exists_perm_append
  have hnil' : l ≠ [] := fun hl => hnil (List.sublist_nil.1 (hl ▸ h))
  have hsum : (l.map fun t => t.length + s.length).sum =
      (l'.map fun t => t.length + s.length).sum + (rest.map fun t => t.length + s.length).sum := by
    rw [(hperm.map _).sum_nat, List.map_append, List.sum_append]
  have hrest : 0 < (rest.map fun t => t.length + s.length).sum := by
    cases rest with
    | nil => exact absurd (h.eq_of_length (by simpa using hperm.length_eq.symm)) hne
    | cons t ts =>
      rw [List.map_cons, List.sum_cons]
      omega
  rw [← length_intercalate hnil, ← length_intercalate hnil'] at hsum
  omega

end Text

/-! ## What an issue tells -/

theorem Review.problem?_eq_of_artifacts_eq {rule : Rule} {label : String} {gate : Option Gate}
    {r r' : Registry Int} {party : Party} {code : String}
    (h : artifacts rule label gate r party [code] = artifacts rule label gate r' party [code]) :
    problem? gate r party code = problem? gate r' party code := by
  unfold artifacts at h
  cases hp : problem? gate r party code with
  | none =>
    cases hp' : problem? gate r' party code with
    | none => rfl
    | some text' => simp [hp, hp'] at h
  | some text =>
    cases hp' : problem? gate r' party code with
    | none => simp [hp, hp'] at h
    | some text' =>
      simpa [hp, hp', Issue.broken, String.intercalate_singleton] using h

/-- A hidden record is not found, whatever is said of it otherwise. -/
theorem Hides.problem?_ne {rows : List (Artifact Int)} {party : Party} {code : String}
    (h : Hides rows party code) (gate : Option Gate) :
    Review.problem? gate (.ofList rows) party code ≠
      Review.problem? gate (.ofList (rows.filter (·.visibleTo party))) party code := by
  obtain ⟨own, hown⟩ := h.exists_usable?
  rw [Review.problem?, Review.problem?, h.usable?_eq_none, hown]
  dsimp only
  split
  · exact Option.some_ne_none _
  · intro htext
    rw [Option.some.injEq, String.append_assoc, String.append_assoc,
      String.append_right_inj] at htext
    -- what is said behind the code starts with another letter
    have hchars := congrArg String.toList htext
    simp at hchars

theorem Hides.artifacts_ne {rows : List (Artifact Int)} {party : Party} {code : String}
    (h : Hides rows party code) (rule : Rule) (label : String) (gate : Option Gate) :
    Review.artifacts rule label gate (.ofList rows) party [code] ≠
      Review.artifacts rule label gate (.ofList (rows.filter (·.visibleTo party))) party [code] :=
  fun heq => h.problem?_ne gate (Review.problem?_eq_of_artifacts_eq heq)

/-- Fewer unresolved parameters make another issue. -/
theorem Review.parameters_ne_of_sublist {catalog catalog' : Catalog Int} {party : Party}
    {refs : References} (hbound : refs.paramSetBindings ≠ [])
    (hsub : (unresolved catalog party refs).Sublist (unresolved catalog' party refs))
    (hne : unresolved catalog party refs ≠ unresolved catalog' party refs) :
    parameters catalog party refs ≠ parameters catalog' party refs := by
  rw [parameters, parameters, if_neg hbound, if_neg hbound]
  cases hu : unresolved catalog party refs with
  | nil =>
    cases hu' : unresolved catalog' party refs with
    | nil => exact absurd (hu.trans hu'.symm) hne
    | cons item' items' => simp
  | cons item items =>
    rw [hu] at hsub hne
    have hlt := Text.length_intercalate_lt (s := ", ") (by decide) hsub hne (List.cons_ne_nil _ _)
    cases hu' : unresolved catalog' party refs with
    | nil => simp [hu'] at hsub
    | cons item' items' =>
      intro heq
      simp only [Issue.broken, List.cons.injEq, Issue.mk.injEq, String.append_right_inj] at heq
      rw [hu', heq.1.2.2.1] at hlt
      exact absurd hlt (Nat.lt_irrefl _)

namespace Governance

variable {g g' : Governance} {w : Workflow} {party : Party}

/-- The categories of a review for saving have a rule each. -/
theorem saveIssues_inj
    (h : g.saveIssues party w.references = g'.saveIssues party w.references) :
    Review.profiles g.catalog none party w.references.agentBindings =
        Review.profiles g'.catalog none party w.references.agentBindings ∧
      Review.sets g.catalog none party w.references.paramSetBindings =
        Review.sets g'.catalog none party w.references.paramSetBindings := by
  have hrule (rule : Rule) := congrArg (List.filter (·.code = rule.code)) h
  simp only [saveIssues, Review.profiles, Review.sets, List.filter_append,
    Review.about_artifacts.filter_eq, Review.about_connectors.filter_eq] at hrule
  exact ⟨by simpa [Rule.code, Review.profiles] using hrule .agentProfiles,
    by simpa [Rule.code, Review.sets] using hrule .parameterSets⟩

/-- So have those of a review for publishing. -/
theorem publishIssues_inj
    (h : g.publishIssues w party w.references = g'.publishIssues w party w.references) :
    Review.rulePacks g.catalog g.gate party w.references =
        Review.rulePacks g'.catalog g'.gate party w.references ∧
      Review.parameters g.catalog party w.references =
        Review.parameters g'.catalog party w.references := by
  have hrule (rule : Rule) := congrArg (List.filter (·.code = rule.code)) h
  simp only [publishIssues, Review.profiles, Review.sets, List.filter_append,
    Review.about_owner.filter_eq, Review.about_rulePacks.filter_eq,
    Review.about_artifacts.filter_eq, Review.about_parameters.filter_eq,
    Review.about_connectors.filter_eq] at hrule
  exact ⟨by simpa [Rule.code] using hrule .rulePacks,
    by simpa [Rule.code] using hrule .parameters⟩

/-- A workflow that calls no other one is reviewed by its catalog alone. -/
theorem review_publish_of_no_calls {ε : Type} {least : Int} {catalog : Catalog Int}
    {directory : Directory ε} {current : Option String} (h : w.references.subflows = []) :
    (mk catalog (.least least)).review directory w party current .publish =
      .ok ⟨(mk catalog (.least least)).publishIssues w party w.references⟩ := by
  rw [review, unordered?_of_least rfl, h]
  simp [Review.subflows]

end Governance

/-! ## Workflows that notice -/

theorem cleanCodes_singleton {text code : String} (h : code? text = some code) :
    cleanCodes [text] = [code] := by
  simp [cleanCodes, h, Text.distinct]

/-- A node that evaluates the pack of a text. -/
def Node.evaluating (text : String) : Node where
  id := "rule"
  type := "rule-pack-eval"
  name := "rule"
  config := [("rulePackCode", .text text)]

/-- A workflow that evaluates the pack of a text. -/
def Workflow.evaluating (text : String) : Workflow := { nodes := [.evaluating text] }

/-- A workflow that binds the set of a text, and has another text in a note. -/
def Workflow.noting (text mention : String) : Workflow where
  nodes := [{ id := "note", type := "note", name := "note", config := [("text", .text mention)] }]
  paramSetBindings := [text]

theorem Node.packCodes_evaluating {text code : String} (h : code? text = some code) :
    (evaluating text).packCodes = [code] := by
  simp [evaluating, packCodes, configCode?, Fields.get?_cons, Json.text?, Text.distinct, h]

theorem Workflow.rulePackCodes_evaluating {text code : String} (h : code? text = some code) :
    (evaluating text).references.rulePackCodes = [code] := by
  have hkind : (Node.evaluating text).kind = .rule .decisionPack [code] :=
    Node.kind_eq_rule_iff.2 ⟨List.mem_cons_self, rfl, Node.packCodes_evaluating h⟩
  simp [evaluating, references, Node.usedPacks, hkind, Text.sorted, Text.insertSorted]

theorem Workflow.mentions_noting {text mention : String} {e : Expression}
    (mentioned : e ∈ Expression.scan mention) (scope : e.scope = Expression.paramsScope)
    (given : e.head ≠ "") : (noting text mention).Mentions e.head :=
  ⟨_, mention, e, .config (List.mem_singleton_self _), .entry (List.mem_singleton_self _) (.here _),
    mentioned, scope, rfl, given⟩

theorem Workflow.paramSetBindings_noting {text code : String} (h : code? text = some code)
    (mention : String) : (noting text mention).references.paramSetBindings = [code] :=
  cleanCodes_singleton h

theorem Workflow.subflows_noting (text mention : String) :
    (noting text mention).references.subflows = [] := by
  simp [subflows_eq, callers, noting]

namespace Catalog.Rows

variable {r : Rows} {party : Party} {text code mention : String}

/-- With a set that may be used, others' rows of it only resolve more. -/
theorem unresolved_sublist (named : code? text = some code)
    (hoffers : r.catalog.parameterSets.Offers party code) :
    (Review.unresolved r.catalog party (Workflow.noting text mention).references).Sublist
      (Review.unresolved (r.seenBy party).catalog party
        (Workflow.noting text mention).references) := by
  have hbinds := Workflow.paramSetBindings_noting named mention
  refine List.monotone_filter_right _ fun item => ?_
  simp only [decide_eq_true_eq, mem_findParameters, Registry.mem_codes_findUsable, hbinds,
    List.mem_singleton]
  refine mt ?_
  rintro ⟨hwanted, s, hs, _, ⟨rfl, -⟩, hgives⟩
  exact ⟨hwanted, s, (List.mem_filter.1 hs).1, _, ⟨rfl, hoffers⟩, hgives⟩

theorem mem_unresolved_noting (named : code? text = some code) {item : String} :
    item ∈ Review.unresolved r.catalog party (Workflow.noting text mention).references ↔
      (Workflow.noting text mention).Mentions item ∧
        ¬ (r.catalog.parameterSets.Offers party code ∧
          ∃ s ∈ r.parameterSets, s.Gives code item) := by
  have hbinds := Workflow.paramSetBindings_noting named mention
  simp only [Review.unresolved, List.mem_filter, decide_eq_true_eq, mem_findParameters,
    Registry.mem_codes_findUsable, hbinds, List.mem_singleton, ← Workflow.mem_parameterCodes]
  refine and_congr_right fun hwanted => not_congr ⟨?_, ?_⟩
  · rintro ⟨-, s, hs, _, ⟨rfl, hoffers⟩, hgives⟩
    exact ⟨hoffers, s, hs, hgives⟩
  · rintro ⟨hoffers, s, hs, hgives⟩
    exact ⟨hwanted, s, hs, code, ⟨rfl, hoffers⟩, hgives⟩

theorem parameters_ne {e : Expression} (named : code? text = some code)
    (mentioned : e ∈ Expression.scan mention) (scope : e.scope = Expression.paramsScope)
    (given : e.head ≠ "") (lends : Lends r.parameterSets party code e.head) :
    Review.parameters r.catalog party (Workflow.noting text mention).references ≠
      Review.parameters (r.seenBy party).catalog party
        (Workflow.noting text mention).references := by
  obtain ⟨usable, given', foreign⟩ := lends
  have hbinds := Workflow.paramSetBindings_noting named mention
  refine Review.parameters_ne_of_sublist (by simp [hbinds])
    (unresolved_sublist named usable) fun heq => ?_
  -- the parameter is resolved by all rows, and not by those that the party may see
  have hseen : e.head ∈ Review.unresolved (r.seenBy party).catalog party
      (Workflow.noting text mention).references := by
    refine (mem_unresolved_noting named).2
      ⟨Workflow.mentions_noting mentioned scope given, ?_⟩
    rintro ⟨-, s, hs, hgives⟩
    obtain ⟨hs, hvisible⟩ := List.mem_filter.1 hs
    rw [foreign s hs hgives] at hvisible
    cases hvisible
  rw [← heq, mem_unresolved_noting named] at hseen
  exact hseen.2 ⟨usable, given'⟩

/-- **Whatever crosses makes a difference**, to one workflow at least. -/
theorem Crossed.review_ne (h : r.Crossed party) (least : Int) : ∃ w stage, ∀ {ε : Type}
    (directory : Directory ε) (current : Option String),
      (Governance.mk r.catalog (.least least)).review directory w party current stage ≠
        (Governance.mk (r.seenBy party).catalog (.least least)).review directory w party current
          stage := by
  cases h with
  | @pack text code named hides =>
    refine ⟨.evaluating text, .publish, fun directory current h => ?_⟩
    rw [Governance.review_publish_of_no_calls rfl, Governance.review_publish_of_no_calls rfl] at h
    have hpacks := (Governance.publishIssues_inj (Verdict.mk.inj (Except.ok.inj h))).1
    simp only [Review.rulePacks, Workflow.rulePackCodes_evaluating named] at hpacks
    exact hides.artifacts_ne _ _ _ (List.append_cancel_left hpacks)
  | @profile text code named hides =>
    refine ⟨{ agentBindings := [text] }, .save, fun directory current h => ?_⟩
    rw [Governance.review_save, Governance.review_save] at h
    have hprofiles := (Governance.saveIssues_inj (Verdict.mk.inj (Except.ok.inj h))).1
    have hcodes : (Workflow.references { agentBindings := [text] }).agentBindings = [code] :=
      cleanCodes_singleton named
    rw [hcodes] at hprofiles
    exact hides.artifacts_ne _ _ _ hprofiles
  | @set text code named hides =>
    refine ⟨{ paramSetBindings := [text] }, .save, fun directory current h => ?_⟩
    rw [Governance.review_save, Governance.review_save] at h
    have hsets := (Governance.saveIssues_inj (Verdict.mk.inj (Except.ok.inj h))).2
    have hcodes : (Workflow.references { paramSetBindings := [text] }).paramSetBindings = [code] :=
      cleanCodes_singleton named
    rw [hcodes, Review.sets, Review.sets, sets_seenBy] at hsets
    exact hides.artifacts_ne _ _ _ hsets
  | @item text code mention e named mentioned scope given lends =>
    have hcalls := Workflow.subflows_noting text mention
    refine ⟨.noting text mention, .publish, fun directory current h => ?_⟩
    rw [Governance.review_publish_of_no_calls hcalls,
      Governance.review_publish_of_no_calls hcalls] at h
    have hparameters := (Governance.publishIssues_inj (Verdict.mk.inj (Except.ok.inj h))).2
    exact parameters_ne named mentioned scope given lends hparameters

end Catalog.Rows

/-! ## Tenants -/

/-- **Tenants are kept apart** by a file in which nothing crosses, and by no other: whatever rows
that the party may not see are added, taken away or changed, the reviews of the party stay the same
as long as nothing crosses. -/
theorem apart_unless_crossed (party : Party) (r : Catalog.Rows) :
    (¬ r.Crossed party → ∀ r' : Catalog.Rows, r'.seenBy party = r.seenBy party →
      ¬ r'.Crossed party → ∀ (gate : Gate) (ε : Type) (directory : Directory ε) (w : Workflow)
        (current : Option String) (stage : Stage),
          (Governance.mk r'.catalog gate).review directory w party current stage =
            (Governance.mk r.catalog gate).review directory w party current stage) ∧
    (r.Crossed party → ∀ least : Int, ∃ r' : Catalog.Rows, r'.seenBy party = r.seenBy party ∧
      ¬ r'.Crossed party ∧ ∃ w stage, ∀ (ε : Type) (directory : Directory ε)
        (current : Option String),
          (Governance.mk r'.catalog (.least least)).review directory w party current stage ≠
            (Governance.mk r.catalog (.least least)).review directory w party current stage) := by
  constructor
  · intro h r' hseen h' gate ε directory w current stage
    rw [(r'.agree_seenBy h' w).review_eq, (r.agree_seenBy h w).review_eq, hseen]
  · intro h least
    obtain ⟨w, stage, hne⟩ := h.review_ne least
    exact ⟨r.seenBy party, r.seenBy_seenBy party, r.not_crossed_seenBy party, w, stage,
      fun ε directory current => (hne directory current).symm⟩

namespace Sample

/-- The rows of a tenant. -/
def owned : Catalog.Rows where
  rulePacks := [⟨"LIMITS", 2, .user "owner", .isPrivate, true⟩]
  parameterSets := [⟨⟨"CAPS", 2, .user "owner", .isPrivate, true⟩, []⟩]

/-- A row of another tenant comes after the pack of the same code, and one before the set. -/
def mixed : Catalog.Rows where
  rulePacks := owned.rulePacks ++ [⟨"LIMITS", 2, .user "guest", .isPrivate, true⟩]
  parameterSets := ⟨⟨"CAPS", 2, .user "guest", .isPrivate, true⟩, ["cap"]⟩ :: owned.parameterSets

/-- Rows of another tenant with codes of their own. -/
def beside : Catalog.Rows where
  rulePacks := owned.rulePacks ++ [⟨"CREDIT", 2, .user "guest", .isPrivate, true⟩]
  parameterSets := ⟨⟨"FLOORS", 2, .user "guest", .isPrivate, true⟩, ["cap"]⟩ :: owned.parameterSets

def packed : Workflow := { Workflow.evaluating "LIMITS" with ownerUserId := some "owner" }

def capped : Workflow :=
  { Workflow.noting "CAPS" "\x7b\x7b params.cap \x7d\x7d" with ownerUserId := some "owner" }

/-- The rules that a review finds broken. -/
def broken (r : Catalog.Rows) (w : Workflow) : Option (List String) :=
  ((Governance.mk r.catalog (.least 2)).review directory w (.user "owner") none
    .publish).toOption.map (·.codes)

end Sample

theorem apart_unless_crossed_beside :
    Sample.beside.seenBy (.user "owner") = Sample.owned ∧
    Sample.broken Sample.owned Sample.capped = some ["WF203"] ∧
    ∀ w, Sample.broken Sample.beside w = Sample.broken Sample.owned w := by
  have hbeside : ¬ Sample.beside.Crossed (.user "owner") :=
    Catalog.Rows.not_crossed_of_unshared (by decide) (by decide) (by decide)
  have howned : ¬ Sample.owned.Crossed (.user "owner") :=
    Catalog.Rows.not_crossed_of_unshared (by decide) (by decide) (by decide)
  refine ⟨by decide, by decide +kernel, fun w => ?_⟩
  rw [Sample.broken, Sample.broken, (apart_unless_crossed (.user "owner") Sample.owned).1 howned
    Sample.beside (by decide) hbeside]

/-- A row of another tenant takes a pack away, and another one gives a parameter. -/
theorem crossed_over :
    Sample.mixed.seenBy (.user "owner") = Sample.owned.seenBy (.user "owner") ∧
    Sample.broken Sample.owned Sample.packed = some [] ∧
    Sample.broken Sample.mixed Sample.packed = some ["WF301"] ∧
    Sample.broken Sample.owned Sample.capped = some ["WF203"] ∧
    Sample.broken Sample.mixed Sample.capped = some [] :=
  ⟨by decide, by decide +kernel, by decide +kernel, by decide +kernel, by decide +kernel⟩

end WorkflowRelease
