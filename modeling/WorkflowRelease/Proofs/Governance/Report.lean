import WorkflowRelease.Proofs.Governance.Mentioned
import WorkflowRelease.Proofs.Run.Basic

/-!
# What a review reports

The findings of a review for publishing, category by category, against what the catalog and the
store hold. Each category has a rule of its own, so that the findings of one say nothing of another
(`About`). Main statement: `told_by_review`, the review comes to a verdict iff the called
definitions can be loaded, and the verdict is then told by what is usable and what is served. A
called workflow is compared with the current one by the text of its id: `alias_served`, an id that
leads to the current definition in another way is let through.
-/

namespace WorkflowRelease

/-! ## What may be used -/

theorem Artifact.usableBy_iff {a : Artifact Int} {party : Party} : a.usableBy party = true ↔
    a.isActive = true ∧ (a.owner = party ∨ a.source = .isPublic) := by
  simp [usableBy, visibleTo]

namespace Registry

variable (r : Registry Int) (gate : Gate) (party : Party) (code : String)

/-- The record of the code is active, and it belongs to the party or is public. -/
def Offers : Prop :=
  ∃ a, r.find? code = some a ∧ a.isActive = true ∧ (a.owner = party ∨ a.source = .isPublic)

/-- The record of the code may be used and has been published. -/
def Resolves : Prop :=
  ∃ a, r.find? code = some a ∧ a.isActive = true ∧ (a.owner = party ∨ a.source = .isPublic) ∧
    gate.admits a.version = true

variable {r gate party code}

theorem resolves_iff :
    r.Resolves gate party code ↔ Review.problem? (some gate) r party code = none := by
  simp [Resolves, Review.problem?_eq_none_iff, usable?_eq_some_iff, Artifact.usableBy_iff,
    and_assoc]

theorem mem_codes_findUsable {codes : List String} :
    code ∈ (r.findUsable codes party).map (·.code) ↔ code ∈ codes ∧ r.Offers party code := by
  simp only [List.mem_map, mem_findUsable, Offers, Artifact.usableBy_iff]
  constructor
  · rintro ⟨a, ⟨hc, hf, hu⟩, rfl⟩
    exact ⟨hc, a, hf, hu⟩
  · rintro ⟨hc, a, hf, hu⟩
    have hcode := code_of_find? hf
    exact ⟨a, ⟨hcode ▸ hc, hcode ▸ hf, hu⟩, hcode⟩

end Registry

/-! ## Called workflows -/

/-- A version of the document is published, the one that is asked for if there is one. -/
def Document.Publishes (d : Document) (wanted : Option String) : Prop :=
  ∃ v ∈ d.versions, v.status = .published ∧ ∀ id, wanted = some id → v.id = id

/-- The workflow that a node calls will do: it is called by another id than that of the current
definition, the party may read what the id leads to, and that has been published. -/
def Store.Serves (s : Store) (party : Party) (current : Option String) (n : Node) : Prop :=
  ∃ id d, n.configCode? "workflowDefinitionId" = some id ∧ current ≠ some id ∧
    s.load id = .ok (some d) ∧ d.definition.readableBy party = true ∧
    d.Publishes (n.configCode? "workflowVersionId")

/-- Every definition that is called, other than the current one, is there or missing: what is
stored under its id can be read. -/
def Store.Answers (s : Store) (current : Option String) (n : Node) : Prop :=
  ∀ id, n.configCode? "workflowDefinitionId" = some id → current ≠ some id →
    ∃ found, s.load id = .ok found

/-- What a node calls. -/
def Node.call (n : Node) : SubflowTarget where
  nodeId := n.id
  nodeName := n.name
  definitionId := n.configCode? "workflowDefinitionId"
  versionId := n.configCode? "workflowVersionId"

theorem Node.subflow?_eq (n : Node) :
    n.subflow? = if n.type = "subflow-call" then some n.call else none := by
  unfold subflow?
  split
  · rename_i hk
    obtain ⟨ht, rfl, rfl⟩ := kind_eq_subflow_iff.1 hk
    rw [if_pos ht, call]
  · rename_i hk
    rw [if_neg fun ht => hk _ _ (kind_eq_subflow_iff.2 ⟨ht, rfl, rfl⟩)]

/-- The nodes that call another workflow, in order. -/
def Workflow.callers (w : Workflow) : List Node := w.nodes.filter (·.type = "subflow-call")

theorem Workflow.subflows_eq (w : Workflow) :
    w.references.subflows = w.callers.map Node.call := by
  simp only [references, callers]
  induction w.nodes with
  | nil => rfl
  | cons n ns ih =>
    have hn := n.subflow?_eq
    by_cases ht : n.type = "subflow-call"
    · rw [if_pos ht] at hn
      rw [List.filterMap_cons_some hn, List.filter_cons_of_pos (by simpa using ht), List.map_cons,
        ih]
    · rw [if_neg ht] at hn
      rw [List.filterMap_cons_none hn, List.filter_cons_of_neg (by simpa using ht), ih]

namespace Store

variable {s : Store}

theorem visible?_of_load {id : String} {found : Option Document} (h : s.load id = .ok found)
    (party : Party) :
    s.directory.isVisible id party = .ok (found.any (·.definition.readableBy party)) := by
  cases found with
  | none => simp [directory, visible?, h, bind, Except.bind, Except.map]
  | some d =>
    cases hr : d.definition.readableBy party <;>
      simp [directory, visible?, h, hr, bind, Except.bind, Except.map]

theorem published?_of_load {id : String} {d : Document} (h : s.load id = .ok (some d))
    (wanted : Option String) :
    ∃ b, s.directory.isPublished id wanted = .ok b ∧ (b = true ↔ d.Publishes wanted) := by
  refine ⟨d.versions.any fun v => v.status = .published && wanted.all (v.id = ·), ?_, ?_⟩
  · simp only [directory, published?, h, bind, Except.bind, Except.map, Option.isSome_map,
      List.isSome_find?, List.any_filter]
  · simp [Document.Publishes, Option.all_eq_true]

end Store

namespace Review

variable (s : Store) (party : Party) (current : Option String)

/-- **A called workflow** is looked at iff what is stored under its id can be read, and nothing is
wrong with it iff it will do. -/
theorem subflowFault?_call (n : Node) :
    ((∃ fault, subflowFault? s.directory party current n.call = .ok fault) ↔
        s.Answers current n) ∧
      ∀ fault, subflowFault? s.directory party current n.call = .ok fault →
        (fault = none ↔ s.Serves party current n) := by
  unfold subflowFault? Store.Answers Store.Serves Node.call
  cases hid : n.configCode? "workflowDefinitionId" with
  | none => simp
  | some id =>
    by_cases hself : current = some id
    · simp [hself]
    · cases hl : s.load id with
      | error faults =>
        simp [hself, hl, Store.directory, Store.visible?, bind, Except.bind, Except.map]
      | ok found =>
        have hvisible := Store.visible?_of_load hl party
        cases found with
        | none => simp [hself, hl, hvisible, bind, Except.bind]
        | some d =>
          obtain ⟨published, hb, hiff⟩ :=
            Store.published?_of_load hl (n.configCode? "workflowVersionId")
          cases hr : d.definition.readableBy party with
          | false => simp [hself, hl, hvisible, hr, bind, Except.bind]
          | true =>
            cases published with
            | false => simp [hself, hl, hvisible, hr, hb, ← hiff, bind, Except.bind]
            | true => simp [hself, hl, hvisible, hr, hb, ← hiff, bind, Except.bind]

theorem exists_mem_iff {α : Type} {l : List α} : (∃ a, a ∈ l) ↔ l ≠ [] := by
  cases l <;> simp

/-- All the issues are about one rule. -/
def About (rule : Rule) (issues : List Issue) : Prop := ∀ i ∈ issues, i.code = rule.code

theorem About.append {rule : Rule} {issues issues' : List Issue} (h : About rule issues)
    (h' : About rule issues') : About rule (issues ++ issues') := by
  intro i hi
  rcases List.mem_append.1 hi with hi | hi
  · exact h i hi
  · exact h' i hi

theorem about_nil (rule : Rule) : About rule [] := by simp [About]

theorem about_broken (rule : Rule) (message : String) : About rule [.broken rule message] := by
  simp [About, Issue.broken]

/-- The rule is reported iff there is an issue. -/
theorem About.mem_codes {rule : Rule} {issues : List Issue} (h : About rule issues)
    {code : String} : code ∈ issues.map (·.code) ↔ code = rule.code ∧ issues ≠ [] := by
  constructor
  · intro hm
    obtain ⟨i, hi, rfl⟩ := List.mem_map.1 hm
    exact ⟨h i hi, List.ne_nil_of_mem hi⟩
  · rintro ⟨rfl, hne⟩
    obtain ⟨i, hi⟩ := List.exists_mem_of_ne_nil _ hne
    exact List.mem_map.2 ⟨i, hi, h i hi⟩

theorem About.filter_eq {rule : Rule} {issues : List Issue} (h : About rule issues)
    (code : String) :
    issues.filter (·.code = code) = if rule.code = code then issues else [] := by
  split
  · rename_i heq
    exact List.filter_eq_self.2 fun i hi => by simpa [heq] using h i hi
  · rename_i hne
    refine List.filter_eq_nil_iff.2 fun i hi => ?_
    simpa [h i hi] using hne

open Classical in
/-- **The findings about called workflows**: there are findings iff every call is answered, and then
one for each node whose call will not do, in order. -/
theorem subflows_calls (ns : List Node) :
    ((∃ issues, subflows s.directory party current (ns.map Node.call) = .ok issues) ↔
        ∀ n ∈ ns, s.Answers current n) ∧
      ∀ issues, subflows s.directory party current (ns.map Node.call) = .ok issues →
        About .subflow issues ∧
        issues.map (·.nodeId) =
          (ns.filter fun n => ¬ s.Serves party current n).map fun n => some n.id := by
  induction ns with
  | nil => simp [subflows, About]
  | cons n ns ih =>
    obtain ⟨ihlook, ihissues⟩ := ih
    obtain ⟨hlook, hserves⟩ := subflowFault?_call s party current n
    -- the first call that cannot be looked at ends the walk, whatever the others are
    simp only [List.map_cons, List.forall_mem_cons, subflows, ← hlook, ← ihlook]
    cases hf : subflowFault? s.directory party current n.call with
    | error faults => simp [bind, Except.bind]
    | ok fault =>
      cases hr : subflows s.directory party current (ns.map Node.call) with
      | error faults => simp [bind, Except.bind]
      | ok rest =>
        obtain ⟨habout, hnodes⟩ := ihissues rest hr
        have hserves := hserves fault hf
        refine ⟨by simp [bind, Except.bind], ?_⟩
        rintro issues ⟨⟩
        cases fault with
        | none =>
          rw [List.filter_cons_of_neg (by simpa using hserves.1 rfl)]
          exact ⟨habout, hnodes⟩
        | some what =>
          have hnot : ¬ s.Serves party current n := fun h => by cases hserves.2 h
          rw [List.filter_cons_of_pos (by simpa using hnot), List.map_cons, List.map_cons, hnodes]
          exact ⟨List.forall_mem_cons.2 ⟨rfl, habout⟩, rfl⟩

/-! ## The other categories -/

section Categories

variable {party} {catalog : Catalog Int} {gate : Gate} {w : Workflow}

theorem about_owner : About .owner (owner w party) := by
  unfold owner
  dsimp only
  split
  · exact about_broken _ _
  · split
    · exact about_broken _ _
    · exact about_nil _

theorem owner_ne_nil_iff : owner w party ≠ [] ↔
    Text.strip (w.ownerUserId.getD "") = "" ∨
      party ≠ .user (Text.strip (w.ownerUserId.getD "")) := by
  unfold owner
  by_cases hblank : Text.strip (w.ownerUserId.getD "") = ""
  · simp [hblank]
  · by_cases hparty : party = .user (Text.strip (w.ownerUserId.getD ""))
    · simp [hblank, ← hparty]
    · simp [hblank, hparty]

variable {rule : Rule} {label : String} {r : Registry Int} {codes : List String}

theorem about_artifacts {gate : Option Gate} :
    About rule (artifacts rule label gate r party codes) := by
  unfold artifacts
  split
  · exact about_nil _
  · exact about_broken _ _

theorem artifacts_ne_nil_iff : artifacts rule label (some gate) r party codes ≠ [] ↔
    ∃ code ∈ codes, ¬ r.Resolves gate party code := by
  simp [artifacts_eq_nil_iff, Registry.resolves_iff]

theorem about_rulePacks : About .rulePacks (rulePacks catalog gate party w.references) := by
  refine About.append (fun i hi => ?_) about_artifacts
  obtain ⟨m, -, rfl⟩ := List.mem_map.1 hi
  rfl

theorem rulePacks_ne_nil_iff : rulePacks catalog gate party w.references ≠ [] ↔
    ∃ n ∈ w.nodes, n.EvaluatesPacks ∧
      (n.packCodes = [] ∨ ∃ code ∈ n.packCodes, ¬ catalog.rulePacks.Resolves gate party code) := by
  rw [rulePacks, ne_eq, List.append_eq_nil_iff, List.map_eq_nil_iff,
    Classical.not_and_iff_not_or_not]
  rw [← ne_eq, ← ne_eq, artifacts_ne_nil_iff, Workflow.missingPacks_ne_nil_iff]
  simp only [Workflow.mem_rulePackCodes]
  constructor
  · rintro (⟨n, hn, hpacks, hnone⟩ | ⟨code, ⟨n, hn, hpacks, hcode⟩, hbad⟩)
    · exact ⟨n, hn, hpacks, .inl hnone⟩
    · exact ⟨n, hn, hpacks, .inr ⟨code, hcode, hbad⟩⟩
  · rintro ⟨n, hn, hpacks, hnone | ⟨code, hcode, hbad⟩⟩
    · exact .inl ⟨n, hn, hpacks, hnone⟩
    · exact .inr ⟨code, ⟨n, hn, hpacks, hcode⟩, hbad⟩

theorem about_parameters : About .parameters (parameters catalog party w.references) := by
  unfold parameters
  split
  · exact about_nil _
  · split
    · exact about_nil _
    · exact about_broken _ _

/-- A parameter is resolved iff it is an active item of a bound set that the party may use. -/
theorem mem_unresolved {code : String} : code ∈ unresolved catalog party w.references ↔
    w.Mentions code ∧ ¬ ∃ i ∈ catalog.parameterItems, i.isActive = true ∧ i.code = code ∧
      Lists w.paramSetBindings i.setCode ∧ catalog.parameterSets.Offers party i.setCode := by
  have hbound : w.references.paramSetBindings = w.boundSets := rfl
  have hcodes : w.references.parameterCodes = w.parameterCodes := rfl
  simp only [unresolved, List.mem_filter, mem_findParameters, Registry.mem_codes_findUsable, hbound,
    hcodes, Workflow.mem_boundSets, Workflow.mem_parameterCodes, decide_eq_true_eq]
  grind

theorem parameters_ne_nil_iff : parameters catalog party w.references ≠ [] ↔
    (∃ code, Lists w.paramSetBindings code) ∧
    ∃ code, w.Mentions code ∧ ¬ ∃ i ∈ catalog.parameterItems, i.isActive = true ∧ i.code = code ∧
      Lists w.paramSetBindings i.setCode ∧ catalog.parameterSets.Offers party i.setCode := by
  have hsets : (∃ code, Lists w.paramSetBindings code) ↔ w.boundSets ≠ [] := by
    simp only [← Workflow.mem_boundSets, exists_mem_iff]
  simp only [hsets, ← mem_unresolved, exists_mem_iff]
  have hbound : w.references.paramSetBindings = w.boundSets := rfl
  rw [parameters, hbound]
  by_cases hnone : w.boundSets = []
  · simp [hnone]
  · rw [if_neg hnone]
    cases unresolved catalog party w.references <;> simp [hnone]

theorem about_connectors : About .dataConnectors (connectors catalog w.references) := by
  unfold connectors
  split
  · exact about_nil _
  · exact about_broken _ _

theorem isConnected_iff {connectors : List DataConnector} {code : String} :
    isConnected connectors code = true ↔
      ∃ c, connectors.find? (·.code = code) = some c ∧ c.isActive = true := by
  unfold isConnected
  cases connectors.find? (·.code = code) <;> simp

theorem connectors_ne_nil_iff : connectors catalog w.references ≠ [] ↔
    ∃ code, Lists w.dataConnectorBindings code ∧
      ¬ ∃ c, catalog.dataConnectors.find? (·.code = code) = some c ∧ c.isActive = true := by
  simp only [← isConnected_iff, ← Workflow.mem_dataConnectorCodes]
  have hnil : connectors catalog w.references = [] ↔
      (w.references.dataConnectorCodes.filter
        fun c => !isConnected catalog.dataConnectors c) = [] := by
    unfold connectors
    cases w.references.dataConnectorCodes.filter _ <;> simp
  simp [hnil]

end Categories

end Review

/-! ## The report -/

open Classical in
/-- What a verdict says about a workflow, category by category. -/
structure Told (catalog : Catalog Int) (least : Int) (s : Store) (w : Workflow) (party : Party)
    (current : Option String) (v : Verdict) : Prop where
  owner : Rule.owner.code ∈ v.codes ↔
    Text.strip (w.ownerUserId.getD "") = "" ∨
      party ≠ .user (Text.strip (w.ownerUserId.getD ""))
  rulePacks : Rule.rulePacks.code ∈ v.codes ↔ ∃ n ∈ w.nodes, n.EvaluatesPacks ∧
    (n.packCodes = [] ∨
      ∃ code ∈ n.packCodes, ¬ catalog.rulePacks.Resolves (.least least) party code)
  agentProfiles : Rule.agentProfiles.code ∈ v.codes ↔ ∃ code,
    (Lists w.agentBindings code ∨
      ∃ n ∈ w.nodes, n.type ∈ agentTypes ∧ n.configCode? "agentProfileCode" = some code) ∧
    ¬ catalog.agentProfiles.Resolves (.least least) party code
  parameterSets : Rule.parameterSets.code ∈ v.codes ↔ ∃ code, Lists w.paramSetBindings code ∧
    ¬ catalog.parameterSets.Resolves (.least least) party code
  parameters : Rule.parameters.code ∈ v.codes ↔ (∃ code, Lists w.paramSetBindings code) ∧
    ∃ code, w.Mentions code ∧ ¬ ∃ i ∈ catalog.parameterItems, i.isActive = true ∧ i.code = code ∧
      Lists w.paramSetBindings i.setCode ∧ catalog.parameterSets.Offers party i.setCode
  dataConnectors : Rule.dataConnectors.code ∈ v.codes ↔ ∃ code,
    Lists w.dataConnectorBindings code ∧
      ¬ ∃ c, catalog.dataConnectors.find? (·.code = code) = some c ∧ c.isActive = true
  subflows : (v.issues.filter (·.code = Rule.subflow.code)).map (·.nodeId) =
    (w.callers.filter fun n => ¬ s.Serves party current n).map fun n => some n.id
  nothingElse : ∀ code ∈ v.codes, code ∈ [Rule.owner, .rulePacks, .agentProfiles, .parameterSets,
    .parameters, .dataConnectors, .subflow].map Rule.code

namespace Governance

variable {catalog : Catalog Int} {least : Int} {w : Workflow} {party : Party} {called : List Issue}

/-- A rule is reported iff its category has an issue. -/
theorem mem_codes_publish (h : Review.About .subflow called) (code : String) :
    code ∈ (Verdict.mk ((mk catalog (.least least)).publishIssues w party w.references ++
        called)).codes ↔
      code = Rule.owner.code ∧ Review.owner w party ≠ [] ∨
      code = Rule.rulePacks.code ∧
        Review.rulePacks catalog (.least least) party w.references ≠ [] ∨
      code = Rule.agentProfiles.code ∧ Review.profiles catalog (some (.least least)) party
        w.references.agentCodes ≠ [] ∨
      code = Rule.parameterSets.code ∧ Review.sets catalog (some (.least least)) party
        w.references.paramSetBindings ≠ [] ∨
      code = Rule.parameters.code ∧ Review.parameters catalog party w.references ≠ [] ∨
      code = Rule.dataConnectors.code ∧ Review.connectors catalog w.references ≠ [] ∨
      code = Rule.subflow.code ∧ called ≠ [] := by
  simp only [Verdict.codes, publishIssues, Review.profiles, Review.sets, List.map_append,
    List.mem_append, Review.about_owner.mem_codes, Review.about_rulePacks.mem_codes,
    Review.about_artifacts.mem_codes, Review.about_parameters.mem_codes,
    Review.about_connectors.mem_codes, h.mem_codes, or_assoc]

theorem told (s : Store) (current : Option String) (h : Review.About .subflow called)
    (hnodes : open Classical in called.map (·.nodeId) =
      (w.callers.filter fun n => ¬ s.Serves party current n).map fun n => some n.id) :
    Told catalog least s w party current
      ⟨(mk catalog (.least least)).publishIssues w party w.references ++ called⟩ where
  owner := by
    rw [mem_codes_publish h]
    simp [Rule.code, Review.owner_ne_nil_iff]
  rulePacks := by
    rw [mem_codes_publish h]
    simp [Rule.code, Review.rulePacks_ne_nil_iff]
  agentProfiles := by
    rw [mem_codes_publish h]
    simp [Rule.code, Review.profiles, Review.artifacts_ne_nil_iff, Workflow.mem_agentCodes]
  parameterSets := by
    have hbound : w.references.paramSetBindings = w.boundSets := rfl
    rw [mem_codes_publish h]
    simp [Rule.code, Review.sets, Review.artifacts_ne_nil_iff, hbound, Workflow.mem_boundSets]
  parameters := by
    rw [mem_codes_publish h]
    simp [Rule.code, Review.parameters_ne_nil_iff]
  dataConnectors := by
    rw [mem_codes_publish h]
    simp [Rule.code, Review.connectors_ne_nil_iff]
  subflows := by
    rw [← hnodes]
    simp only [publishIssues, Review.profiles, Review.sets, List.filter_append,
      Review.about_owner.filter_eq, Review.about_rulePacks.filter_eq,
      Review.about_artifacts.filter_eq, Review.about_parameters.filter_eq,
      Review.about_connectors.filter_eq, h.filter_eq]
    simp [Rule.code]
  nothingElse := by
    intro code hcode
    rw [mem_codes_publish h] at hcode
    rcases hcode with h | h | h | h | h | h | h <;> simp [h.1]

end Governance

/-- **The report of a review.** -/
theorem told_by_review (catalog : Catalog Int) (least : Int) (s : Store) (w : Workflow)
    (party : Party) (current : Option String) :
    ((∃ v, (Governance.mk catalog (.least least)).review s.directory w party current .publish =
        .ok v) ↔ ∀ n ∈ w.callers, s.Answers current n) ∧
      ∀ v, (Governance.mk catalog (.least least)).review s.directory w party current .publish =
        .ok v → Told catalog least s w party current v := by
  obtain ⟨hlook, hissues⟩ := Review.subflows_calls s party current w.callers
  rw [← hlook, Governance.review, Governance.unordered?_of_least rfl, w.subflows_eq]
  cases hcalled : Review.subflows s.directory party current (w.callers.map Node.call) with
  | error faults => simp
  | ok called =>
    obtain ⟨habout, hnodes⟩ := hissues called hcalled
    dsimp only
    refine ⟨⟨fun _ => ⟨_, rfl⟩, fun _ => ⟨_, rfl⟩⟩, fun v hv => ?_⟩
    rw [← Except.ok.inj hv]
    exact Governance.told s current habout hnodes

namespace Sample

/-- A store in which the definition that is called has been published. -/
def stocked : Store := (service.run before).store

/-- A workflow that only calls the definition of an id. -/
def calling (id : String) : Workflow where
  ownerUserId := some "owner"
  nodes := [{ id := "call", type := "subflow-call", name := "call"
              config := [("workflowDefinitionId", .text id)] }]

/-- The first definition calls the definition of an id. -/
def called (id : String) : Option Verdict :=
  (({} : Governance).review stocked.directory (calling id) (.user "owner") (some "definition-0")
    .publish).toOption

end Sample

theorem told_by_review_of_self : ∃ v, Sample.called "definition-0" = some v ∧
    v.codes = [Rule.subflow.code] ∧
    Told {} 2 Sample.stocked (Sample.calling "definition-0") (.user "owner") (some "definition-0")
      v := by
  have hsome : (Sample.called "definition-0").any (·.codes = [Rule.subflow.code]) = true := by
    decide +kernel
  obtain ⟨v, hv, hcodes⟩ := (Option.any_eq_true _ _).1 hsome
  refine ⟨v, hv, by simpa using hcodes, ?_⟩
  exact (told_by_review {} 2 _ _ _ _).2 v (eq_ok_of_toOption hv)

/-- An id that leads to the current definition in another way is not seen to be the definition's
own, and the call is let through. -/
theorem alias_served :
    Sample.stocked.load "./definition-0" = Sample.stocked.load "definition-0" ∧
    (Sample.stocked.load "definition-0").toOption.join.map (·.definition.id) = some "definition-0" ∧
    (Sample.called "./definition-0").map (·.codes) = some [] := by
  refine ⟨?_, by decide +kernel, by decide +kernel⟩
  have hplace : Sample.stocked.folder.placeOf "definition-0" =
      .ok ⟨["data", "workflows"], "definition-0.json"⟩ :=
    eq_ok_of_toOption (by decide +kernel)
  have halias : Sample.stocked.folder.placeOf "./definition-0" =
      .ok ⟨["data", "workflows"], "definition-0.json"⟩ :=
    eq_ok_of_toOption (by decide +kernel)
  rw [Store.load, Store.load, hplace, halias]

end WorkflowRelease
