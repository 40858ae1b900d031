import WorkflowRelease.Issue
import WorkflowRelease.Log.Entry
import WorkflowRelease.Registry.Catalog
import WorkflowRelease.Registry.Gate
import WorkflowRelease.Workflow.References

/-!
# Review of references

Whether everything that a workflow refers to outside itself is there and may be used
(`GovernanceValidator`). For saving, bound agent profiles, parameter sets and data connectors have
to exist. For publishing, every reference is looked at, artifacts have to have been published, and
the workflow has to belong to who asks. Each category is reviewed on its own. There is no verdict
when the gate cannot be compared with a version that has to pass it, or when a directory gives no
answer. Main statement: `problem?_eq_none_iff`, a code is no problem iff its record is usable and,
where it is gated, published.
-/

namespace WorkflowRelease

/-- What a review asks about other workflows (`find_visible`, `find_published`); the answer may be a
fault of what is stored. -/
structure Directory (ε : Type) where
  /-- The definition is there and the party may read it. -/
  isVisible : (definitionId : String) → (party : Party) → Except ε Bool
  /-- The version of the definition is published; without one, any version is. -/
  isPublished : (definitionId : String) → (versionId : Option String) → Except ε Bool

namespace Review

/-- Why a review comes to no verdict. -/
inductive Obstacle (ε : Type) where
  /-- The gate is a value of a kind that no version number is compared with. -/
  | unordered (kind : String)
  | noAnswer (error : ε)

/-! ## Artifacts -/

/-- What is wrong with a code. A version that the gate does not admit has never been published. -/
def problem? (gate : Option Gate) (r : Registry Int) (party : Party) (code : String) :
    Option String :=
  match r.usable? party code with
  | none => some (code ++ " (not found, inactive or not visible)")
  | some a =>
    if gate.all (·.admits a.version) then none
    else some (code ++ " (version " ++ toString a.version ++ " has never been published)")

/-- The issue about the codes of one category (`_check_artifacts`). -/
def artifacts (rule : Rule) (label : String) (gate : Option Gate) (r : Registry Int)
    (party : Party) (codes : List String) : List Issue :=
  match codes.filterMap (problem? gate r party) with
  | [] => []
  | problems =>
    [.broken rule (label ++ " references are not usable: " ++ "; ".intercalate problems)]

theorem problem?_eq_none_iff {gate : Option Gate} {r : Registry Int} {party : Party}
    {code : String} : problem? gate r party code = none ↔
      ∃ a, r.usable? party code = some a ∧ ∀ g, gate = some g → g.admits a.version = true := by
  cases h : r.usable? party code with
  | none => simp [problem?, h]
  | some a => cases gate <;> simp [problem?, h]

theorem artifacts_eq_nil_iff {rule : Rule} {label : String} {gate : Option Gate}
    {r : Registry Int} {party : Party} {codes : List String} :
    artifacts rule label gate r party codes = [] ↔
      ∀ code ∈ codes, problem? gate r party code = none := by
  rw [← List.filterMap_eq_nil_iff]
  unfold artifacts
  split
  · simp_all
  · rename_i h
    simp_all

def profiles (catalog : Catalog Int) (gate : Option Gate) (party : Party) (codes : List String) :
    List Issue :=
  artifacts .agentProfiles "Agent profile" gate catalog.agentProfiles party codes

def sets (catalog : Catalog Int) (gate : Option Gate) (party : Party) (codes : List String) :
    List Issue :=
  artifacts .parameterSets "Parameter set" gate catalog.parameterSets party codes

/-- What `_check_rule_packs` finds. -/
def rulePacks (catalog : Catalog Int) (gate : Gate) (party : Party) (refs : References) :
    List Issue :=
  refs.missingPacks.map (fun m =>
    (Issue.broken .rulePacks ("Rule node " ++ m.nodeName ++
      " evaluates a decision rule pack but configures no rulePackCode")).atNode m.nodeId) ++
  artifacts .rulePacks "Rule pack" (some gate) catalog.rulePacks party refs.rulePackCodes

/-! ## Parameters and connectors -/

/-- The parameters that are no active items of a bound set that the party may use. -/
def unresolved (catalog : Catalog Int) (party : Party) (refs : References) : List String :=
  let bound := (catalog.parameterSets.findUsable refs.paramSetBindings party).map (·.code)
  let found := findParameters catalog.parameterItems refs.parameterCodes bound
  refs.parameterCodes.filter (· ∉ found)

/-- What `_check_parameters` finds. Without any bound set it is for the structure to complain. -/
def parameters (catalog : Catalog Int) (party : Party) (refs : References) : List Issue :=
  if refs.paramSetBindings = [] then []
  else match unresolved catalog party refs with
    | [] => []
    | codes => [.broken .parameters
        ("Parameter references do not resolve in the bound parameter sets: " ++
          ", ".intercalate codes)]

/-- What `_check_data_connectors` finds. -/
def connectors (catalog : Catalog Int) (refs : References) : List Issue :=
  match refs.dataConnectorCodes.filter fun c => !isConnected catalog.dataConnectors c with
  | [] => []
  | codes => [.broken .dataConnectors
      ("Data connectors not found or inactive: " ++ ", ".intercalate codes)]

/-! ## The owner and called workflows -/

/-- What `_check_owner` finds. -/
def owner (w : Workflow) (party : Party) : List Issue :=
  let name := Text.strip (w.ownerUserId.getD "")
  if name = "" then [.broken .owner "DSL ownerUserId is required before publishing"]
  else if party ≠ .user name then
    [.broken .owner "DSL ownerUserId does not match the publishing user"]
  else []

variable {ε : Type}

/-- What is wrong with the workflow that a node calls (`_check_subflow`). -/
def subflowFault? (directory : Directory ε) (party : Party) (current : Option String)
    (t : SubflowTarget) : Except ε (Option String) :=
  match t.definitionId with
  | none => .ok (some "must configure workflowDefinitionId")
  | some id =>
    if current = some id then .ok (some "cannot call its own workflow")
    else do
      if !(← directory.isVisible id party) then
        .ok (some ("references a workflow that does not exist or is not accessible: " ++ id))
      else if !(← directory.isPublished id t.versionId) then
        let wanted := match t.versionId with
          | some version => "version " ++ version
          | none => "any version"
        .ok (some ("needs a published " ++ wanted ++ " of workflow " ++ id))
      else .ok none

/-- One issue for each called workflow that will not do, in order (`_check_subflows`). -/
def subflows (directory : Directory ε) (party : Party) (current : Option String) :
    List SubflowTarget → Except ε (List Issue)
  | [] => .ok []
  | t :: ts => do
    let fault ← subflowFault? directory party current t
    let rest ← subflows directory party current ts
    .ok (match fault with
      | some what => (Issue.broken .subflow
          ("Subflow node " ++ t.nodeName ++ " " ++ what)).atNode t.nodeId :: rest
      | none => rest)

end Review

/-! ## The review -/

/-- What a service reviews by: its catalog, and the gate for artifacts of a published workflow. -/
structure Governance where
  catalog : Catalog Int := {}
  gate : Gate := .least 2
deriving DecidableEq

namespace Governance

variable {ε : Type}

/-- The issues for saving: what is bound has to exist. -/
def saveIssues (g : Governance) (party : Party) (refs : References) : List Issue :=
  Review.profiles g.catalog none party refs.agentBindings ++
    Review.sets g.catalog none party refs.paramSetBindings ++ Review.connectors g.catalog refs

/-- The issues for publishing that need no other workflow. -/
def publishIssues (g : Governance) (w : Workflow) (party : Party) (refs : References) :
    List Issue :=
  Review.owner w party ++ Review.rulePacks g.catalog g.gate party refs ++
    Review.profiles g.catalog (some g.gate) party refs.agentCodes ++
    Review.sets g.catalog (some g.gate) party refs.paramSetBindings ++
    Review.parameters g.catalog party refs ++ Review.connectors g.catalog refs

/-- Some version has to pass the gate. -/
def isGateAsked (g : Governance) (party : Party) (refs : References) : Bool :=
  refs.rulePackCodes.any (fun code => (g.catalog.rulePacks.usable? party code).isSome) ||
    refs.agentCodes.any (fun code => (g.catalog.agentProfiles.usable? party code).isSome) ||
    refs.paramSetBindings.any fun code => (g.catalog.parameterSets.usable? party code).isSome

/-- The kind of a gate that some version has to pass and cannot be compared with. -/
def unordered? (g : Governance) (party : Party) (refs : References) : Option String :=
  if g.isGateAsked party refs then g.gate.unordered? else none

/-- Reviews a workflow at a stage (`validate`). A definition may be given that the workflow belongs
to, which must not be called. -/
def review (g : Governance) (directory : Directory ε) (w : Workflow) (party : Party)
    (current : Option String) : Stage → Except (Review.Obstacle ε) Verdict
  | .save => .ok ⟨g.saveIssues party w.references⟩
  | .publish =>
    match g.unordered? party w.references with
    | some kind => .error (.unordered kind)
    | none =>
      match Review.subflows directory party current w.references.subflows with
      | .error e => .error (.noAnswer e)
      | .ok called => .ok ⟨g.publishIssues w party w.references ++ called⟩

/-- What is logged about a review. -/
def notice (w : Workflow) (stage : Stage) (verdict : Verdict) : List Log.Entry :=
  if verdict.valid then []
  else [{ logger := Log.serviceName "governance"
          message := "Governance " ++ Choice.word stage ++ " validation failed for workflow '" ++
            w.workflowId ++ "': " ++ verdict.codeList }]

theorem review_save (g : Governance) (directory : Directory ε) (w : Workflow) (party : Party)
    (current : Option String) :
    g.review directory w party current .save = .ok ⟨g.saveIssues party w.references⟩ := rfl

/-- A review for publishing comes to a verdict iff the gate can be compared with and the called
workflows can be looked at. -/
theorem review_publish_eq_ok_iff {g : Governance} {directory : Directory ε} {w : Workflow}
    {party : Party} {current : Option String} {v : Verdict} :
    g.review directory w party current .publish = .ok v ↔
      g.unordered? party w.references = none ∧
      ∃ called, Review.subflows directory party current w.references.subflows = .ok called ∧
        v = ⟨g.publishIssues w party w.references ++ called⟩ := by
  unfold review
  cases g.unordered? party w.references with
  | some kind => simp
  | none =>
    cases Review.subflows directory party current w.references.subflows with
    | error e => simp
    | ok called => simp [eq_comm]

theorem unordered?_of_least {g : Governance} {n : Int} (h : g.gate = .least n) (party : Party)
    (refs : References) : g.unordered? party refs = none := by
  simp [unordered?, h, Gate.unordered?]

end Governance

end WorkflowRelease
