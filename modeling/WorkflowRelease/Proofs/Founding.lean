import WorkflowRelease.Proofs.Publication
import WorkflowRelease.Proofs.Snapshot.Identity
import WorkflowRelease.Proofs.Snapshot.Kept
import WorkflowRelease.Proofs.Structure.Debate
import WorkflowRelease.Proofs.Unique

/-!
# New workflows

What comes of a request to create a workflow that brings no document along. The document to start
from lacks nothing but an identity (`Skeleton.exists_isSkeleton`), the defaults for nodes only
change its policy, and with an identity only the required fields of the identity may be wrong
(`Workflow.IsSkeleton.saveIssues_founded`). Of these a request vouches for the id, but not for the
name, which may be blank. Main statement: `created_unless_blank`.
-/

namespace WorkflowRelease

open Reader

/-! ## Texts that are not blank -/

theorem isBlank_of_isIdCharacter {c : Char} (h : isIdCharacter c = true) :
    Text.isBlank c = false := by
  have hrange : 33 ≤ c.toNat ∧ c.toNat ≤ 122 := by
    have h : ((decide (65 ≤ c.val ∧ c.val ≤ 90) ||
        decide (97 ≤ c.val) && decide (c.val ≤ 122)) ||
        decide (48 ≤ c.val) && decide (c.val ≤ 57) || decide (c = '_') || decide (c = '-')) =
          true := h
    simp only [Bool.or_eq_true, Bool.and_eq_true, decide_eq_true_eq, UInt32.le_iff_toNat_le] at h
    change ((((65 ≤ c.toNat ∧ c.toNat ≤ 90) ∨ (97 ≤ c.toNat ∧ c.toNat ≤ 122)) ∨
      (48 ≤ c.toNat ∧ c.toNat ≤ 57)) ∨ c = '_') ∨ c = '-' at h
    rcases h with (((h | h) | h) | rfl) | rfl
    · omega
    · omega
    · omega
    · decide
    · decide
  simp only [Text.isBlank, Bool.or_eq_false_iff, Bool.and_eq_false_iff, decide_eq_false_iff_not,
    beq_eq_false_iff_ne]
  omega

/-- The id of a workflow is not blank. -/
theorem isBlankText_of_isWorkflowId {s : String} (h : isWorkflowId s = true) :
    Text.isBlankText s = false := by
  simp only [isWorkflowId, Bool.and_eq_true, List.all_eq_true, decide_eq_true_eq] at h
  obtain ⟨⟨hchars, hleast⟩, -⟩ := h
  obtain ⟨c, hc⟩ : ∃ c, c ∈ s.toList := by
    refine List.exists_mem_of_length_pos ?_
    rw [String.length_toList]
    omega
  exact Text.isBlankText_eq_false_iff.2 ⟨c, hc, isBlank_of_isIdCharacter (hchars c hc)⟩

/-! ## The workflow to start from -/

namespace Workflow

/-- The workflow of the mode under a name. -/
def named (w : Workflow) (mode : Mode) : Workflow :=
  w.identifiedAs "id" "name" mode none none none

/-- All that is missing in the workflow is an identity: under one of the mode it can be saved,
whatever counts as output, and it refers to nothing outside itself. -/
structure IsSkeleton (w : Workflow) (mode : Mode) : Prop where
  sound : Structure.saveIssues [] (w.named mode) = []
  nonempty : w.nodes.isEmpty = false ∧ w.edges.isEmpty = false
  noApproval : ∀ n ∈ w.nodes, n.kind ≠ .approval
  unbound : w.agentBindings = [] ∧ w.paramSetBindings = [] ∧ w.dataConnectorBindings = []
  policy : w.runPolicy = some ⟨some {}, []⟩
  written : w.isWritable = true ∧ w.snapshot.areWritable = true

/-- A debate whose rounds lead to judges is sound if it is as one chain. -/
theorem sound_debate {w : Workflow} (h : Structure.saveIssues [] (w.named .linear) = [])
    (hparts : ∀ t ∈ Structure.debateTypes, ∃ n ∈ (Graph.ofWorkflow w).nodes, n.type = t)
    (hrounds : ∀ n ∈ (Graph.ofWorkflow w).nodes, n.type = "debate-round" →
      ∃ m ∈ (Graph.ofWorkflow w).nodes, m.type = "judge-agent" ∧
        m.id ∈ (Graph.ofWorkflow w).successors n.id) :
    Structure.saveIssues [] (w.named .debate) = [] := by
  have hdebate : Structure.debateRoles (w.named .debate) (Graph.ofWorkflow w) = [] := by
    refine (Structure.debateRoles_eq_nil_iff (Graph.nodup_ids w) rfl).2 ⟨hparts, fun n hn ht => ?_⟩
    obtain ⟨m, hm, hjudge, hto⟩ := hrounds n hn ht
    exact ⟨m, hm, hjudge, .single (Graph.mem_successors.1 hto)⟩
  simp only [Structure.saveIssues, List.append_eq_nil_iff, and_assoc] at h ⊢
  -- the rules of one mode alone have nothing to say in another one
  obtain ⟨required, unique, ends, connected, -, -, -, -, rest⟩ := h
  exact ⟨required, unique, ends, connected, rfl, rfl, hdebate, rfl, rest⟩

end Workflow

namespace Skeleton

/-- The document of a new workflow of any mode is a workflow that lacks nothing but an identity. -/
theorem exists_isSkeleton (mode : Mode) :
    ∃ w, Workflow.ofFields (document mode []) = .valid w ∧ w.IsSkeleton mode := by
  have hfacts : ∃ w ∈ (Workflow.ofFields (document mode [])).value?.toList,
      (mode ≠ .debate → Structure.saveIssues [] (w.named mode) = []) ∧
      (mode = .debate → Structure.saveIssues [] (w.named .linear) = [] ∧
        (∀ t ∈ Structure.debateTypes, ∃ n ∈ (Graph.ofWorkflow w).nodes, n.type = t) ∧
        ∀ n ∈ (Graph.ofWorkflow w).nodes, n.type = "debate-round" →
          ∃ m ∈ (Graph.ofWorkflow w).nodes, m.type = "judge-agent" ∧
            m.id ∈ (Graph.ofWorkflow w).successors n.id) ∧
      (w.nodes.isEmpty = false ∧ w.edges.isEmpty = false) ∧ (∀ n ∈ w.nodes, n.kind ≠ .approval) ∧
      (w.agentBindings = [] ∧ w.paramSetBindings = [] ∧ w.dataConnectorBindings = []) ∧
      w.runPolicy = some ⟨some {}, []⟩ ∧ w.isWritable = true ∧
      w.snapshot.areWritable = true := by
    cases mode <;> decide +kernel
  obtain ⟨w, hw, hplain, hdebate, facts⟩ := hfacts
  obtain ⟨nonempty, noApproval, unbound, policy, written⟩ := facts
  refine ⟨w, Checked.value?_eq_some_iff.1 (Option.mem_toList.1 hw), ?_, nonempty, noApproval,
    unbound, policy, written⟩
  by_cases hmode : mode = .debate
  · obtain ⟨hchain, hparts, hrounds⟩ := hdebate hmode
    exact hmode ▸ Workflow.sound_debate hchain hparts hrounds
  · exact hplain hmode

theorem anonymous_document (mode : Mode) (nodeDefaults : Fields) :
    (document mode nodeDefaults).anonymous = document mode nodeDefaults := by
  simp [Fields.anonymous, document, Identity.names]

/-- The defaults of nodes are all that the document is told. -/
theorem readOr_document {α : Type} {r : Reader α} {names : List String} {fallback : α} {mode : Mode}
    {nodeDefaults : Fields} (h : "runPolicy" ∉ names) :
    (document mode nodeDefaults).readOr names fallback r =
      (document mode []).readOr names fallback r := by
  refine Fields.readOr_congr fun n hn => ?_
  have hne : "runPolicy" ≠ n := fun heq => h (heq ▸ hn)
  simp [document, Fields.get?_cons, hne]

theorem readOr_policy {nodeDefaults : Fields} {p : NodePolicy} (mode : Mode)
    (h : NodePolicy.ofFields nodeDefaults = .valid p) :
    (document mode nodeDefaults).readOr ["runPolicy", "run_policy"] none
      (record "RunPolicy" RunPolicy.ofFields).optional = .valid (some ⟨some p, []⟩) := by
  have hpolicy : RunPolicy.ofFields [("nodeDefaults", .object nodeDefaults)] =
      .valid ⟨some p, []⟩ := by
    refine RunPolicy.ofFields_eq_valid_iff.2 ⟨?_, rfl⟩
    refine Fields.readOr_of_some (v := .object nodeDefaults) rfl ?_
    exact congrArg (Checked.map some) h
  refine Fields.readOr_of_some (v := .object [("nodeDefaults", .object nodeDefaults)]) ?_ ?_
  · simp [document, Fields.get?_cons]
  · exact congrArg (Checked.map some) hpolicy

theorem ofFields_document {nodeDefaults : Fields} {p : NodePolicy} (mode : Mode)
    (h : NodePolicy.ofFields nodeDefaults = .valid p) :
    Workflow.ofFields (document mode nodeDefaults) =
      (Workflow.ofFields (document mode [])).map fun w =>
        { w with runPolicy := some ⟨some p, []⟩ } := by
  have beside {α : Type} {r : Reader α} {names : List String} {fallback : α}
    (h : "runPolicy" ∉ names) :
      (document mode nodeDefaults).readOr names fallback r =
        (document mode []).readOr names fallback r := readOr_document h
  have hnone := readOr_policy mode (rfl : NodePolicy.ofFields [] = .valid {})
  unfold Workflow.ofFields Fields.readOption
  simp only [Checked.map_eq, Checked.seq_eq]
  rw [readOr_policy mode h, hnone]
  simp (disch := decide) only [beside]
  simp only [Checked.seq_valid_right, Checked.map_seq]
  rfl

end Skeleton

/-! ## Under an identity -/

namespace Workflow

/-- The workflow with defaults for its nodes, under an identity. -/
def founded (w : Workflow) (p : NodePolicy) (d : Definition) : Workflow :=
  { w with runPolicy := some ⟨some p, []⟩ }.identifiedAs d.workflowId d.name d.mode d.usageMethod
    (some d.ownerUserId) (some d.source)

namespace IsSkeleton

variable {w : Workflow} {p : NodePolicy} {d : Definition} (h : w.IsSkeleton d.mode)

include h

/-- With an identity, only the identity may be wrong. -/
theorem saveIssues_founded (outputTypes : List String) :
    Structure.saveIssues outputTypes (w.founded p d) =
      Structure.requiredFields (w.founded p d) := by
  have hsound := h.sound
  simp only [Structure.saveIssues, List.append_eq_nil_iff, and_assoc] at hsound
  obtain ⟨-, unique, ends, connected, chain, acyclic, debate, joined, -, rest⟩ := hsound
  have happroval : Structure.approvalOutputs outputTypes (Graph.ofWorkflow w) = [] := by
    have hnone : (Graph.ofWorkflow w).nodes.filter (·.kind = .approval) = [] :=
      List.filter_eq_nil_iff.2 fun n hn => by simpa using h.noApproval n (mem_firstById hn)
    rw [Structure.approvalOutputs, hnone, List.flatMap_nil]
  simp only [Structure.saveIssues, List.append_assoc, List.append_right_eq_self,
    List.append_eq_nil_iff]
  exact ⟨unique, ends, connected, chain, acyclic, debate, joined, happroval, rest⟩

theorem requiredFields_founded (hid : Text.isBlankText d.workflowId = false) :
    Structure.requiredFields (w.founded p d) =
      if Text.isBlankText d.name then
        [.broken .requiredFields "Missing required workflow fields: name"]
      else [] := by
  obtain ⟨hnodes, hedges⟩ := h.nonempty
  have hmissing : Structure.missingFields (w.founded p d) =
      if Text.isBlankText d.name then ["name"] else [] := by
    cases hname : Text.isBlankText d.name <;>
      simp [Structure.missingFields, founded, identifiedAs, hid, hname, hnodes, hedges]
  rw [Structure.requiredFields, hmissing]
  cases Text.isBlankText d.name <;> rfl

theorem snapshotOf_founded : Plan.snapshotOf (w.founded p d) = .ok (w.founded p d).snapshot := by
  refine snapshotOf_eq_ok_iff.2 ⟨?_, rfl⟩
  have hfree : (w.founded p d).freeValues = w.freeValues := by
    rw [freeValues, freeValues, h.policy]
    rfl
  rw [isWritable, hfree]
  exact h.written.1

theorem areWritable_founded : (w.founded p d).snapshot.areWritable = true := by
  have hpolicy : Json.isWritable (.object (RunPolicy.snapshot ⟨some p, []⟩)) = true := by
    obtain ⟨_ | _, _ | _, _ | _, _ | _⟩ := p <;> rfl
  have husage : (optionalField "usageMethod" (d.usageMethod.map .word)).all (·.2.isWritable) =
      true := by
    cases d.usageMethod <;> rfl
  have hrun : (optionalField "runPolicy" ((w.founded p d).runPolicy.map
      fun p => .object p.snapshot)).all (·.2.isWritable) = true := by
    simp [optionalField, founded, identifiedAs, hpolicy]
  have hwritten := h.written.2
  simp only [snapshot, Fields.areWritable, List.all_append, Bool.and_eq_true, and_assoc]
    at hwritten ⊢
  obtain ⟨-, -, -, -, -, -, graph, -, bindings, output, experiment⟩ := hwritten
  exact ⟨rfl, rfl, husage, rfl, rfl, rfl, graph, hrun, bindings, output, experiment⟩

theorem saveIssues_references (g : Governance) (party : Party) :
    g.saveIssues party (w.founded p d).references = [] := by
  obtain ⟨hagents, hsets, hconnectors⟩ := h.unbound
  have hrefs : (w.founded p d).references.agentBindings = [] ∧
      (w.founded p d).references.paramSetBindings = [] ∧
      (w.founded p d).references.dataConnectorCodes = [] := by
    simp [references, boundSets, founded, identifiedAs, hagents, hsets, hconnectors, cleanCodes,
      Text.distinct, Text.sorted]
  simp [Governance.saveIssues, Review.profiles, Review.sets, Review.artifacts, Review.connectors,
    hrefs]

end IsSkeleton

end Workflow

theorem Service.canonical_of_none {s : Service} {p : NodePolicy}
    (hp : NodePolicy.ofFields s.nodeDefaults = .valid p) (d : Definition) :
    ∃ w : Workflow, w.IsSkeleton d.mode ∧ s.canonical none d = .ok (w.founded p d) := by
  obtain ⟨w, hw, hskeleton⟩ := Skeleton.exists_isSkeleton d.mode
  refine ⟨w, hskeleton, ?_⟩
  have hread : Workflow.canonicalize none d.identity s.nodeDefaults = .valid (w.founded p d) := by
    have hidentity : d.identity = ⟨.text d.workflowId, .text d.name, d.mode, d.usageMethod,
      .ofText? (some d.ownerUserId), some d.source⟩ := rfl
    have hnone : Workflow.canonicalize none d.identity s.nodeDefaults =
      Workflow.canonicalize (some (Skeleton.document d.mode s.nodeDefaults)) d.identity
        s.nodeDefaults := rfl
    rw [hnone, hidentity, Workflow.canonicalize_eq, Skeleton.anonymous_document,
      Skeleton.ofFields_document d.mode hp, hw, Checked.map_valid, Checked.map_valid]
    rfl
  unfold canonical
  generalize Workflow.canonicalize none d.identity s.nodeDefaults = x at hread
  rw [hread]

/-! ## Requests -/

theorem CreateRequest.isWorkflowId_of_read {document : Json} {r : CreateRequest}
    (h : read document = .valid r) : isWorkflowId r.workflowId = true := by
  obtain ⟨o, -, hfields⟩ := Reader.record_eq_valid_iff.1 h
  simp only [ofFields, Checked.map_eq, Checked.seq_eq, Checked.seq_eq_valid_iff,
    Checked.map_eq_valid_iff] at hfields
  -- seven fields follow the id
  obtain ⟨_, _, ⟨_, _, ⟨_, _, ⟨_, _, ⟨_, _, ⟨_, _, ⟨_, _, ⟨id, hread, rfl⟩, -, rfl⟩, -, rfl⟩, -,
    rfl⟩, -, rfl⟩, -, rfl⟩, -, rfl⟩, -, rfl⟩ := hfields
  unfold Fields.read at hread
  split at hread
  · obtain ⟨-, htest⟩ := refine_eq_valid_iff.1 (Checked.under_eq_valid_iff.1 hread)
    by_contra hid
    rw [if_neg hid] at htest
    cases htest
  · cases hread

namespace Service

variable {s : Service} {p : NodePolicy} {r : CreateRequest} {store : Store} {supply : Supply}
  {fresh : Fresh}

/-- A request without a document comes down to what is wrong with its identity. -/
theorem exists_plan_of_none (hp : NodePolicy.ofFields s.nodeDefaults = .valid p)
    (hnone : r.snapshot = none) (hfree : store.ofWorkflowId? r.workflowId = none)
    (hfresh : supply.fresh = .ok fresh) (owner : String) :
    ∃ w : Workflow, w.IsSkeleton r.mode ∧
      s.canonical none (r.definition owner fresh) =
        .ok (w.founded p (r.definition owner fresh)) ∧
      s.validate (w.founded p (r.definition owner fresh)) .save =
        .ok ⟨Structure.requiredFields (w.founded p (r.definition owner fresh))⟩ ∧
      (s.plan store (.user owner) supply (.create r)).result =
        .ok ⟨.user owner,
          .create (r.definition owner fresh) (w.founded p (r.definition owner fresh)) r.changelog,
          some ⟨r.workflowId, .save,
            ⟨Structure.requiredFields (w.founded p (r.definition owner fresh))⟩⟩⟩ := by
  obtain ⟨w, hw, hcanonical⟩ := canonical_of_none hp (r.definition owner fresh)
  have hvalidate : s.validate (w.founded p (r.definition owner fresh)) .save =
      .ok ⟨Structure.requiredFields (w.founded p (r.definition owner fresh))⟩ := by
    rw [validate, Structure.validate_save, hw.saveIssues_founded]
    rfl
  have hreview : s.review store.directory (w.founded p (r.definition owner fresh)) (.user owner)
      none .save = .ok ⟨[]⟩ := by
    rw [review, Governance.review_save, hw.saveIssues_references]
    rfl
  have hrequire : (Traced.require (store.ofWorkflowId? r.workflowId).isNone
      (.workflowIdTaken r.workflowId)).result = .ok () :=
    Traced.result_require_eq_ok_iff.2 (by rw [hfree]; rfl)
  have howner : (Party.user owner).asOwner = .ok owner := rfl
  refine ⟨w, hw, hcanonical, hvalidate, ?_⟩
  rw [← hnone] at hcanonical
  simp only [plan, planAsking, planCreate, Traced.result_bind, Traced.result_logAll, hrequire,
    Traced.result_take, Traced.fresh_eq_ok.2 hfresh, Traced.result_ofExcept, howner, hcanonical,
    examine, hvalidate, hreview, Traced.result_pure, Verdict.merge, List.append_nil]
  rfl

end Service

/-- **A new workflow** is made of a request without a document, unless its name is blank. For every
request that is accepted and whose id of a workflow is free, whoever asks, whatever the catalog and
with any defaults for nodes that are a policy: one definition is stored, with one version, which is
a draft whose snapshot is read back as a workflow that is valid for saving. If the name is blank,
the request is refused for that reason and for no other one. -/
theorem created_unless_blank (s : Service) (p : NodePolicy)
    (hp : NodePolicy.ofFields s.nodeDefaults = .valid p) (document : Json) (r : CreateRequest)
    (hr : CreateRequest.read document = .valid r) (hnone : r.snapshot = none) (store : Store)
    (hfree : store.ofWorkflowId? r.workflowId = none) (owner : String) (supply supply' : Supply)
    (hname : IsName supply.definitionId) (now now' : String) (hnow : supply.time = .ok now)
    (hnow' : supply'.time = .ok now') :
    let result := (s.carryOut store (.user owner) supply supply' (.create r)).result
    (Text.isBlankText r.name = false → ∃ d v w place,
      result = .ok (store.put place (.document (.first d v)), .definition d) ∧
      store.folder.placeOf d.id = .ok place ∧ d.workflowId = r.workflowId ∧ d.ownerUserId = owner ∧
      v.status = .draft ∧ Workflow.ofFields v.snapshot = .valid w ∧
      s.validate w .save = .ok ⟨[]⟩) ∧
    (Text.isBlankText r.name = true → result = .error (.rejected .save
      ⟨[.broken .requiredFields "Missing required workflow fields: name"]⟩)) := by
  intro result
  obtain ⟨fresh, hfresh, -, hid⟩ := Supply.exists_fresh hnow
  obtain ⟨fresh', hfresh', -⟩ := Supply.exists_fresh hnow'
  obtain ⟨w, hw, hcanonical, hvalidate, hplan⟩ :=
    Service.exists_plan_of_none hp hnone hfree hfresh owner
  have hblank : Text.isBlankText (r.definition owner fresh).workflowId = false :=
    isBlankText_of_isWorkflowId (CreateRequest.isWorkflowId_of_read hr)
  have hrequired : Structure.requiredFields (w.founded p (r.definition owner fresh)) = _ :=
    hw.requiredFields_founded hblank
  rw [hrequired] at hvalidate hplan
  have hplace : store.placeFor (r.definition owner fresh).id = .ok _ :=
    store.placeFor_of_isName (show IsName fresh.definitionId from hid ▸ hname)
  constructor
  · intro hgiven
    have hgiven : Text.isBlankText (r.definition owner fresh).name = false := hgiven
    rw [hgiven] at hvalidate hplan
    obtain ⟨o, hread⟩ := Service.canonical_eq_ok hcanonical
    have hback := hread.ofFields_eq_settled (Fields.Agrees.refl _) rfl
    have haccept : Plan.IsAccepted ⟨.user owner, .create (r.definition owner fresh)
        (w.founded p (r.definition owner fresh)) r.changelog,
        some ⟨r.workflowId, .save, ⟨[]⟩⟩⟩ := by
      rintro _ ⟨⟩
      rfl
    have hcommit := Plan.result_commit_of_create store haccept rfl hw.snapshotOf_founded
      hw.areWritable_founded hfresh' hplace
    have hfree : store.ofWorkflowId? (r.definition owner fresh).workflowId = none := hfree
    rw [if_pos hfree] at hcommit
    have hresult : result = .ok _ := (Traced.result_bind_of_ok hplan _).trans hcommit
    exact ⟨r.definition owner fresh,
      .initial _ (w.founded p (r.definition owner fresh)).snapshot r.changelog fresh',
      w.founded p (r.definition owner fresh), _, hresult, (Store.placeFor_eq_ok_iff.1 hplace).1,
      rfl, rfl, rfl, hback, hvalidate⟩
  · intro hgiven
    have hgiven : Text.isBlankText (r.definition owner fresh).name = true := hgiven
    rw [hgiven] at hplan
    refine (Traced.result_bind_of_ok hplan _).trans ?_
    exact Plan.commit_of_invalid (f := ⟨r.workflowId, .save, ⟨[_]⟩⟩) rfl rfl store supply'

namespace Sample

/-- A request for a chain that brings no document along. -/
def asking (name : String) : Json :=
  .object [("workflow_id", .text "chain"), ("name", .text name), ("mode", .text "LINEAR")]

/-- The request as it is read. -/
def chain (name : String) : CreateRequest where
  workflowId := "chain"
  name := name
  mode := .linear

def defaults : NodePolicy := ⟨some 30000, some 1, some 2000, some .failFast⟩

theorem ofFields_nodeDefaults : NodePolicy.ofFields service.nodeDefaults = .valid defaults :=
  Checked.value?_eq_some_iff.1 (by decide +kernel)

/-- What comes of the request when nothing is stored. -/
def asked (name : String) : Except Refusal (Store × Outcome) :=
  (service.carryOut {} owner (supply 0) (supply 1) (.create (chain name))).result

end Sample

theorem created_unless_blank_chain :
    CreateRequest.read (Sample.asking "Chain") = .valid (Sample.chain "Chain") ∧
    ∃ d v w place, Sample.asked "Chain" =
        .ok (({} : Store).put place (.document (.first d v)), .definition d) ∧
      ({} : Store).folder.placeOf d.id = .ok place ∧
      d.workflowId = "chain" ∧ d.ownerUserId = "owner" ∧
      v.status = .draft ∧ Workflow.ofFields v.snapshot = .valid w ∧
      Sample.service.validate w .save = .ok ⟨[]⟩ := by
  have hread : CreateRequest.read (Sample.asking "Chain") = .valid (Sample.chain "Chain") :=
    Checked.value?_eq_some_iff.1 (by decide +kernel)
  have hname : IsName (Sample.supply 0).definitionId := by decide +kernel
  obtain ⟨hcreated, -⟩ := created_unless_blank Sample.service Sample.defaults
    Sample.ofFields_nodeDefaults _ _ hread rfl {} (by decide +kernel) "owner" (Sample.supply 0)
    (Sample.supply 1) hname "time-0" "time-1" (by decide +kernel) (by decide +kernel)
  exact ⟨hread, hcreated (by decide +kernel)⟩

/-- A request may be accepted although its name is blank, and is refused all the same. -/
theorem nameless_refused :
    CreateRequest.read (Sample.asking " ") = .valid (Sample.chain " ") ∧
    NodePolicy.ofFields Sample.service.nodeDefaults = .valid Sample.defaults ∧
    ({} : Store).ofWorkflowId? (Sample.chain " ").workflowId = none ∧
    Sample.asked " " = .error (.rejected .save
      ⟨[.broken .requiredFields "Missing required workflow fields: name"]⟩) := by
  exact ⟨Checked.value?_eq_some_iff.1 (by decide +kernel), Sample.ofFields_nodeDefaults,
    by decide +kernel, by decide +kernel⟩

end WorkflowRelease
