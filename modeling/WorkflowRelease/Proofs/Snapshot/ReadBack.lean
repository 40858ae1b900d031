import WorkflowRelease.Log.Entry
import WorkflowRelease.Proofs.Snapshot.Fields

/-!
# Reading snapshots back

What a workflow that was read is read as when its snapshot is. Each record is what its entries are
read as, field by field (`ReadFrom`), and nodes, edges and policies of nodes are read back as they
are. A run policy keeps entries that it does not know, and may so hold one under the plain name of
its defaults while the defaults themselves were read as `null`: these are not written, and the entry
is read in their place (`RunPolicy.plainDefaults?`). Main statements:
`Workflow.ReadFrom.ofFields_eq_settled`, without such an entry a workflow is read back as it is, and
`Workflow.ReadFrom.ofFields_eq_valid_iff_of_plainDefaults`, with one it is read back, if at all,
with that for the defaults.
-/

namespace WorkflowRelease

open Reader

/-! ## Policies of nodes -/

namespace NodePolicy

/-- The policy is what the entries are read as. -/
structure ReadFrom (p : NodePolicy) (o : Fields) : Prop where
  timeoutMs : o.readOption ["timeoutMs", "timeout_ms"]
    (integerBetween (some 1000) (some 120000)) = .valid p.timeoutMs
  retryCount : o.readOption ["retryCount", "retry_count"]
    (integerBetween (some 0) (some 5)) = .valid p.retryCount
  retryBackoffMs : o.readOption ["retryBackoffMs", "retry_backoff_ms"]
    (integerBetween (some 0) (some 60000)) = .valid p.retryBackoffMs
  onError : o.readOption ["onError", "on_error"] (choice OnError) = .valid p.onError

theorem ofFields_eq_valid_iff {o : Fields} {p : NodePolicy} :
    ofFields o = .valid p ↔ p.ReadFrom o := by
  simp only [ofFields, Checked.map_eq, Checked.seq_eq, Checked.seq_eq_valid_iff,
    Checked.map_eq_valid_iff]
  constructor
  · rintro ⟨_, _, ⟨_, _, ⟨_, _, ⟨_, h₁, rfl⟩, h₂, rfl⟩, h₃, rfl⟩, h₄, rfl⟩
    exact ⟨h₁, h₂, h₃, h₄⟩
  · rintro ⟨h₁, h₂, h₃, h₄⟩
    exact ⟨_, _, ⟨_, _, ⟨_, _, ⟨_, h₁, rfl⟩, h₂, rfl⟩, h₃, rfl⟩, h₄, rfl⟩

theorem ReadFrom.again {p : NodePolicy} {o : Fields} (h : p.ReadFrom o) :
    p.ReadFrom p.snapshot where
  timeoutMs := Fields.readOption_again (rereads_integerBetween _ _) h.timeoutMs
    (by simp [snapshot]) (by simp [snapshot])
  retryCount := Fields.readOption_again (rereads_integerBetween _ _) h.retryCount
    (by simp [snapshot]) (by simp [snapshot])
  retryBackoffMs := Fields.readOption_again (rereads_integerBetween _ _) h.retryBackoffMs
    (by simp [snapshot]) (by simp [snapshot])
  onError := Fields.readOption_again (rereads_choice _) h.onError
    (by simp [snapshot]) (by simp [snapshot])

theorem rereads : Rereads reader fun p => .object p.snapshot :=
  rereads_record fun h => ofFields_eq_valid_iff.2 (ofFields_eq_valid_iff.1 h).again

end NodePolicy

/-! ## Nodes and edges -/

namespace Node

/-- The node is what the entries are read as. -/
structure ReadFrom (n : Node) (o : Fields) : Prop where
  id : o.read ["id"] nonempty = .valid n.id
  type : o.read ["type"] nonempty = .valid n.type
  name : o.read ["name"] nonempty = .valid n.name
  enabled : o.readOr ["enabled"] true boolean = .valid n.enabled
  config : o.readOr ["config"] [] mapping = .valid n.config
  policy : o.readOption ["runtimePolicy", "runtime_policy"] NodePolicy.reader = .valid n.policy
  inputBindings : o.readOption ["inputBindings", "input_bindings"] mapping =
    .valid n.inputBindings
  outputSchema : o.readOption ["outputSchema", "output_schema"] any = .valid n.outputSchema

theorem ofFields_eq_valid_iff {o : Fields} {n : Node} : ofFields o = .valid n ↔ n.ReadFrom o := by
  simp only [ofFields, Checked.map_eq, Checked.seq_eq, Checked.seq_eq_valid_iff,
    Checked.map_eq_valid_iff]
  constructor
  · rintro ⟨_, _, ⟨_, _, ⟨_, _, ⟨_, _, ⟨_, _, ⟨_, _, ⟨_, _, ⟨_, h₁, rfl⟩, h₂, rfl⟩, h₃, rfl⟩, h₄,
      rfl⟩, h₅, rfl⟩, h₆, rfl⟩, h₇, rfl⟩, h₈, rfl⟩
    exact ⟨h₁, h₂, h₃, h₄, h₅, h₆, h₇, h₈⟩
  · rintro ⟨h₁, h₂, h₃, h₄, h₅, h₆, h₇, h₈⟩
    exact ⟨_, _, ⟨_, _, ⟨_, _, ⟨_, _, ⟨_, _, ⟨_, _, ⟨_, _, ⟨_, h₁, rfl⟩, h₂, rfl⟩, h₃, rfl⟩, h₄,
      rfl⟩, h₅, rfl⟩, h₆, rfl⟩, h₇, rfl⟩, h₈, rfl⟩

theorem ReadFrom.again {n : Node} {o : Fields} (h : n.ReadFrom o) : n.ReadFrom n.snapshot where
  id := Fields.read_again rereads_nonempty h.id (by simp [snapshot, Fields.get?_cons])
  type := Fields.read_again rereads_nonempty h.type (by simp [snapshot, Fields.get?_cons])
  name := Fields.read_again rereads_nonempty h.name (by simp [snapshot, Fields.get?_cons])
  enabled := Fields.readOr_again rereads_boolean h.enabled rfl
    (by simp [snapshot, Fields.get?_cons])
  config := Fields.readOr_again rereads_mapping h.config rfl (by simp [snapshot, Fields.get?_cons])
  policy := Fields.readOption_again NodePolicy.rereads h.policy
    (by simp [snapshot, Fields.get?_cons]) (by simp [snapshot, Fields.get?_cons])
  inputBindings := Fields.readOption_again rereads_mapping h.inputBindings
    (by simp [snapshot, Fields.get?_cons]) (by simp [snapshot, Fields.get?_cons])
  outputSchema := Fields.readOption_again rereads_any h.outputSchema
    (by simp [snapshot, Fields.get?_cons]) (by simp [snapshot, Fields.get?_cons])

theorem rereads : Rereads reader fun n => .object n.snapshot :=
  rereads_record fun h => ofFields_eq_valid_iff.2 (ofFields_eq_valid_iff.1 h).again

end Node

namespace Edge

/-- The edge is what the entries are read as. -/
structure ReadFrom (e : Edge) (o : Fields) : Prop where
  id : o.read ["id"] nonempty = .valid e.id
  source : o.read ["from", "from_"] nonempty = .valid e.source
  target : o.read ["to"] nonempty = .valid e.target
  type : o.readOr ["edgeType", "edge_type"] .control (choice EdgeType) = .valid e.type
  condition : o.readOption ["condition"] any = .valid e.condition

theorem ofFields_eq_valid_iff {o : Fields} {e : Edge} : ofFields o = .valid e ↔ e.ReadFrom o := by
  simp only [ofFields, Checked.map_eq, Checked.seq_eq, Checked.seq_eq_valid_iff,
    Checked.map_eq_valid_iff]
  constructor
  · rintro ⟨_, _, ⟨_, _, ⟨_, _, ⟨_, _, ⟨_, h₁, rfl⟩, h₂, rfl⟩, h₃, rfl⟩, h₄, rfl⟩, h₅, rfl⟩
    exact ⟨h₁, h₂, h₃, h₄, h₅⟩
  · rintro ⟨h₁, h₂, h₃, h₄, h₅⟩
    exact ⟨_, _, ⟨_, _, ⟨_, _, ⟨_, _, ⟨_, h₁, rfl⟩, h₂, rfl⟩, h₃, rfl⟩, h₄, rfl⟩, h₅, rfl⟩

theorem ReadFrom.again {e : Edge} {o : Fields} (h : e.ReadFrom o) : e.ReadFrom e.snapshot where
  id := Fields.read_again rereads_nonempty h.id (by simp [snapshot, Fields.get?_cons])
  source := Fields.read_again rereads_nonempty h.source (by simp [snapshot, Fields.get?_cons])
  target := Fields.read_again rereads_nonempty h.target (by simp [snapshot, Fields.get?_cons])
  type := Fields.readOr_again (rereads_choice _) h.type rfl (by simp [snapshot, Fields.get?_cons])
  condition := Fields.readOption_again rereads_any h.condition
    (by simp [snapshot, Fields.get?_cons]) (by simp)

theorem rereads : Rereads reader fun e => .object e.snapshot :=
  rereads_record fun h => ofFields_eq_valid_iff.2 (ofFields_eq_valid_iff.1 h).again

end Edge

/-! ## The run policy -/

namespace RunPolicy

/-- The run policy is what the entries are read as. -/
structure ReadFrom (p : RunPolicy) (o : Fields) : Prop where
  nodeDefaults : o.readOption ["nodeDefaults", "node_defaults"] NodePolicy.reader =
    .valid p.nodeDefaults
  others : p.others = othersOf o

theorem ofFields_eq_valid_iff {o : Fields} {p : RunPolicy} :
    ofFields o = .valid p ↔ p.ReadFrom o := by
  simp only [ofFields, Checked.map_eq, Checked.map_eq_valid_iff]
  constructor
  · rintro ⟨_, h, rfl⟩
    exact ⟨h, rfl⟩
  · rintro ⟨h, hothers⟩
    exact ⟨_, h, by rw [← hothers]⟩

/-- The run policy without the other entries that are `null`, which no snapshot has. -/
def settled (p : RunPolicy) : RunPolicy :=
  { p with others := p.others.filter fun e => e.2 ≠ .null }

/-- What stands in the snapshot where the defaults for nodes are looked for, in a policy that has
none: another entry, under their plain name. -/
def plainDefaults? (p : RunPolicy) : Option Json :=
  match p.nodeDefaults with
  | some _ => none
  | none => p.settled.others.get? "node_defaults"

variable {p q : RunPolicy} {o : Fields}

theorem get?_othersOf (o : Fields) : (othersOf o).get? "nodeDefaults" = none := by
  unfold othersOf
  cases hget : o.get? "nodeDefaults" with
  | some v => simp [Fields.findFirst, hget]
  | none =>
    cases hplain : o.get? "node_defaults" with
    | some v =>
      simp only [Fields.findFirst, hget, hplain]
      exact Fields.get?_filter_of_none hget _
    | none => simp [Fields.findFirst, hget, hplain]

theorem ReadFrom.get?_others (h : p.ReadFrom o) : p.settled.others.get? "nodeDefaults" = none := by
  refine Fields.get?_filter_of_none ?_ _
  rw [h.others]
  exact get?_othersOf o

theorem snapshot_of_some {d : NodePolicy} (hd : p.nodeDefaults = some d) :
    p.snapshot = ("nodeDefaults", .object d.snapshot) :: p.settled.others := by
  simp [snapshot, hd, optionalField, settled]

theorem snapshot_of_none (hd : p.nodeDefaults = none) : p.snapshot = p.settled.others := by
  simp [snapshot, hd, optionalField, settled]

/-- **A run policy** is read back as it is, unless another entry stands for its defaults. -/
theorem ReadFrom.again (h : p.ReadFrom o) (hnone : p.plainDefaults? = none) :
    p.settled.ReadFrom p.snapshot := by
  have hothers := h.get?_others
  have hdefaults := Fields.optional_of_readOption NodePolicy.rereads h.nodeDefaults
  cases hd : p.nodeDefaults with
  | some d =>
    rw [hd] at hdefaults
    have hfirst : p.snapshot.findFirst ["nodeDefaults", "node_defaults"] =
        some ("nodeDefaults", .object d.snapshot) :=
      Fields.findFirst_of_some (by simp [snapshot_of_some hd, Fields.get?_cons])
    constructor
    · rw [Fields.readOption, Fields.readOr, hfirst]
      exact Checked.under_eq_valid_iff.2 (hdefaults.trans (congrArg _ hd.symm))
    · rw [othersOf, hfirst, snapshot_of_some hd]
      exact (Fields.erase_of_get?_none hothers).symm.trans (by simp [Fields.erase])
  | none =>
    have hplain : p.settled.others.get? "node_defaults" = none := by
      simpa [plainDefaults?, hd] using hnone
    have hfirst : p.snapshot.findFirst ["nodeDefaults", "node_defaults"] = none := by
      simp [Fields.findFirst, snapshot_of_none hd, hothers, hplain]
    constructor
    · rw [Fields.readOption, Fields.readOr, hfirst]
      exact congrArg _ hd.symm
    · rw [othersOf, hfirst, snapshot_of_none hd]

end RunPolicy

/-! ## Workflows -/

namespace Workflow

/-- The workflow is what the entries are read as. -/
structure ReadFrom (w : Workflow) (o : Fields) : Prop where
  workflowId : o.readOr ["workflowId", "workflow_id"] "" text = .valid w.workflowId
  name : o.readOr ["name"] "" text = .valid w.name
  mode : o.readOption ["mode"] (choice Mode) = .valid w.mode
  usageMethod : o.readOption ["usageMethod", "usage_method"] (choice UsageMethod) =
    .valid w.usageMethod
  version : o.readOr ["version"] "1.0.0" text = .valid w.version
  status : o.readOr ["status"] .draft (choice SnapshotStatus) = .valid w.status
  ownerUserId : o.readOption ["ownerUserId", "owner_user_id"] text = .valid w.ownerUserId
  templateSource : o.readOption ["templateSource", "template_source"] (choice TemplateSource) =
    .valid w.templateSource
  nodes : o.readOr ["nodes"] [] (list Node.reader) = .valid w.nodes
  edges : o.readOr ["edges"] [] (list Edge.reader) = .valid w.edges
  runPolicy : o.readOption ["runPolicy", "run_policy"] (record "RunPolicy" RunPolicy.ofFields) =
    .valid w.runPolicy
  agentBindings : o.readOr ["agentBindings", "agent_bindings"] [] (list text) =
    .valid w.agentBindings
  paramSetBindings : o.readOr ["paramSetBindings", "param_set_bindings"] [] (list text) =
    .valid w.paramSetBindings
  dataConnectorBindings : o.readOr ["dataConnectorBindings", "data_connector_bindings"] []
    (list text) = .valid w.dataConnectorBindings
  outputConfig : o.readOption ["outputConfig", "output_config"] mapping = .valid w.outputConfig
  experimentConfig : o.readOption ["experimentConfig", "experiment_config"] mapping =
    .valid w.experimentConfig

theorem ofFields_eq_valid_iff {o : Fields} {w : Workflow} :
    ofFields o = .valid w ↔ w.ReadFrom o := by
  unfold ofFields
  simp only [Checked.map_eq, Checked.seq_eq]
  constructor
  · intro h
    obtain ⟨_, _, h, h₁₆, e₁₆⟩ := Checked.seq_eq_valid_iff.1 h
    obtain ⟨_, _, h, h₁₅, e₁₅⟩ := Checked.seq_eq_valid_iff.1 h
    obtain ⟨_, _, h, h₁₄, e₁₄⟩ := Checked.seq_eq_valid_iff.1 h
    obtain ⟨_, _, h, h₁₃, e₁₃⟩ := Checked.seq_eq_valid_iff.1 h
    obtain ⟨_, _, h, h₁₂, e₁₂⟩ := Checked.seq_eq_valid_iff.1 h
    obtain ⟨_, _, h, h₁₁, e₁₁⟩ := Checked.seq_eq_valid_iff.1 h
    obtain ⟨_, _, h, h₁₀, e₁₀⟩ := Checked.seq_eq_valid_iff.1 h
    obtain ⟨_, _, h, h₉, e₉⟩ := Checked.seq_eq_valid_iff.1 h
    obtain ⟨_, _, h, h₈, e₈⟩ := Checked.seq_eq_valid_iff.1 h
    obtain ⟨_, _, h, h₇, e₇⟩ := Checked.seq_eq_valid_iff.1 h
    obtain ⟨_, _, h, h₆, e₆⟩ := Checked.seq_eq_valid_iff.1 h
    obtain ⟨_, _, h, h₅, e₅⟩ := Checked.seq_eq_valid_iff.1 h
    obtain ⟨_, _, h, h₄, e₄⟩ := Checked.seq_eq_valid_iff.1 h
    obtain ⟨_, _, h, h₃, e₃⟩ := Checked.seq_eq_valid_iff.1 h
    obtain ⟨_, _, h, h₂, e₂⟩ := Checked.seq_eq_valid_iff.1 h
    obtain ⟨_, h₁, e₁⟩ := Checked.map_eq_valid_iff.1 h
    rw [← e₁₆, ← e₁₅, ← e₁₄, ← e₁₃, ← e₁₂, ← e₁₁, ← e₁₀, ← e₉, ← e₈, ← e₇, ← e₆, ← e₅, ← e₄, ← e₃,
      ← e₂, ← e₁]
    exact ⟨h₁, h₂, h₃, h₄, h₅, h₆, h₇, h₈, h₉, h₁₀, h₁₁, h₁₂, h₁₃, h₁₄, h₁₅, h₁₆⟩
  · intro h
    simp only [h.workflowId, h.name, h.mode, h.usageMethod, h.version, h.status, h.ownerUserId,
      h.templateSource, h.nodes, h.edges, h.runPolicy, h.agentBindings, h.paramSetBindings,
      h.dataConnectorBindings, h.outputConfig, h.experimentConfig, Checked.map, Checked.seq]

/-- The workflow without what no snapshot of it has. -/
def settled (w : Workflow) : Workflow := { w with runPolicy := w.runPolicy.map RunPolicy.settled }

/-- What stands in the snapshot for the defaults of the run policy. -/
def plainDefaults? (w : Workflow) : Option Json := w.runPolicy.bind RunPolicy.plainDefaults?

variable {w w' : Workflow} {o o' : Fields}

/-- All but the run policy is read back as it is. -/
theorem ReadFrom.again (h : w.ReadFrom o) (ho : o'.Agrees w.snapshot) {p : Option RunPolicy}
    (hp : o'.readOption ["runPolicy", "run_policy"] (record "RunPolicy" RunPolicy.ofFields) =
      .valid p) : ReadFrom { w with runPolicy := p } o' where
  workflowId := Fields.readOr_again rereads_text h.workflowId rfl
    (ho.get?_eq_some (by simp [snapshot, Fields.get?_cons]) nofun)
  name := Fields.readOr_again rereads_text h.name rfl
    (ho.get?_eq_some (by simp [snapshot, Fields.get?_cons]) nofun)
  mode := Fields.readOption_again (rereads_choice _) h.mode
    ((ho _).trans (by simp [snapshot, Fields.get?_cons])) (by simp)
  usageMethod := Fields.readOption_again (rereads_choice _) h.usageMethod
    ((ho _).trans (by simp [snapshot, Fields.get?_cons]))
    (by simp [ho _, snapshot, Fields.get?_cons])
  version := Fields.readOr_again rereads_text h.version rfl
    (ho.get?_eq_some (by simp [snapshot, Fields.get?_cons]) nofun)
  status := Fields.readOr_again (rereads_choice _) h.status rfl
    (ho.get?_eq_some (by simp [snapshot, Fields.get?_cons]) nofun)
  ownerUserId := Fields.readOption_again rereads_text h.ownerUserId
    ((ho _).trans (by simp [snapshot, Fields.get?_cons]))
    (by simp [ho _, snapshot, Fields.get?_cons])
  templateSource := Fields.readOption_again (rereads_choice _) h.templateSource
    ((ho _).trans (by simp [snapshot, Fields.get?_cons]))
    (by simp [ho _, snapshot, Fields.get?_cons])
  nodes := Fields.readOr_again Node.rereads.list h.nodes rfl
    (ho.get?_eq_some (by simp [snapshot, Fields.get?_cons]) nofun)
  edges := Fields.readOr_again Edge.rereads.list h.edges rfl
    (ho.get?_eq_some (by simp [snapshot, Fields.get?_cons]) nofun)
  runPolicy := hp
  agentBindings := Fields.readOr_again rereads_text.list h.agentBindings rfl
    (ho.get?_eq_some (by simp [snapshot, Fields.get?_cons, Json.texts]) nofun)
  paramSetBindings := Fields.readOr_again rereads_text.list h.paramSetBindings rfl
    (ho.get?_eq_some (by simp [snapshot, Fields.get?_cons, Json.texts]) nofun)
  dataConnectorBindings := Fields.readOr_again rereads_text.list h.dataConnectorBindings rfl
    (ho.get?_eq_some (by simp [snapshot, Fields.get?_cons, Json.texts]) nofun)
  outputConfig := Fields.readOption_again rereads_mapping h.outputConfig
    ((ho _).trans (by simp [snapshot, Fields.get?_cons]))
    (by simp [ho _, snapshot, Fields.get?_cons])
  experimentConfig := Fields.readOption_again rereads_mapping h.experimentConfig
    ((ho _).trans (by simp [snapshot, Fields.get?_cons]))
    (by simp [ho _, snapshot, Fields.get?_cons])

/-- The run policy is read from its own snapshot. -/
theorem readPolicy_of_some (ho : o'.Agrees w.snapshot) {p : RunPolicy} (hp : w.runPolicy = some p) :
    o'.readOption ["runPolicy", "run_policy"] (record "RunPolicy" RunPolicy.ofFields) =
      ((RunPolicy.ofFields p.snapshot).map some).under (.key "runPolicy") := by
  have hget : o'.get? "runPolicy" = some (.object p.snapshot) :=
    ho.get?_eq_some (by simp [snapshot, Fields.get?_cons, hp]) nofun
  rw [Fields.readOption_of_some hget]
  rfl

theorem readPolicy_of_none (ho : o'.Agrees w.snapshot) (hp : w.runPolicy = none) :
    o'.readOption ["runPolicy", "run_policy"] (record "RunPolicy" RunPolicy.ofFields) =
      .valid none :=
  Fields.readOption_of_null (by simp [ho _, snapshot, Fields.get?_cons, hp])

/-- The run policy of a workflow that was read is what the document has for it. -/
theorem ReadFrom.runPolicy_eq_some_iff (h : w.ReadFrom o) {p : RunPolicy} :
    w.runPolicy = some p ↔
      ∃ key e, o.findFirst ["runPolicy", "run_policy"] = some (key, .object e) ∧ p.ReadFrom e := by
  have hread := h.runPolicy
  constructor
  · intro hp
    rw [hp, Fields.readOption_eq_some_iff] at hread
    obtain ⟨key, v, hfirst, -, hv⟩ := hread
    obtain ⟨e, rfl, he⟩ := record_eq_valid_iff.1 hv
    exact ⟨key, e, hfirst, RunPolicy.ofFields_eq_valid_iff.1 he⟩
  · rintro ⟨key, e, hfirst, he⟩
    have hp := RunPolicy.ofFields_eq_valid_iff.2 he
    refine Checked.valid.inj (hread.symm.trans (Fields.readOption_eq_some_iff.2 ?_))
    exact ⟨key, .object e, hfirst, nofun, record_eq_valid_iff.2 ⟨e, rfl, hp⟩⟩

/-- **A workflow** is read back from its snapshot, unless an entry of its run policy stands for the
defaults. -/
theorem ReadFrom.ofFields_eq_settled (h : w.ReadFrom o) (ho : o'.Agrees w.snapshot)
    (hnone : w.plainDefaults? = none) : ofFields o' = .valid w.settled := by
  refine ofFields_eq_valid_iff.2 (h.again ho ?_)
  cases hp : w.runPolicy with
  | none => exact readPolicy_of_none ho hp
  | some p =>
    obtain ⟨-, e, -, he⟩ := h.runPolicy_eq_some_iff.1 hp
    have hagain := he.again (by simpa [plainDefaults?, hp] using hnone)
    rw [readPolicy_of_some ho hp, RunPolicy.ofFields_eq_valid_iff.2 hagain]
    rfl

end Workflow

end WorkflowRelease
