import WorkflowRelease.Text.Sorted
import WorkflowRelease.Workflow.Snapshot

/-!
# Issues and verdicts

What validation finds in a workflow, by rule. A verdict is a list of issues in the order found; it
is valid unless one of them is an error. Main statement: `valid_merge`, merged verdicts are valid
iff both are.
-/

namespace WorkflowRelease

/-- The rules of validation. -/
inductive Rule where
  | requiredFields
  | uniqueIds
  | edgeEnds
  | connected
  | singleChain
  | acyclic
  | debateRoles
  | joinedBranches
  | approvalOutputs
  | riskGate
  | quorum
  | runPolicy
  | subflow
  | fieldTypes
  | bindingSources
  | parameters
  | mergeFanIn
  | conditions
  | rulePacks
  | parameterSets
  | agentProfiles
  | owner
  | evidence
  | rollout
  | dataConnectors
deriving DecidableEq, Repr

/-- The code under which a rule is reported. -/
def Rule.code : Rule → String
  | requiredFields => "WF001"
  | uniqueIds => "WF002"
  | edgeEnds => "WF003"
  | connected => "WF004"
  | singleChain => "WF005"
  | acyclic => "WF006"
  | debateRoles => "WF101"
  | joinedBranches => "WF102"
  | approvalOutputs => "WF103"
  | riskGate => "WF104"
  | quorum => "WF105"
  | runPolicy => "WF106"
  | subflow => "WF107"
  | fieldTypes => "WF201"
  | bindingSources => "WF202"
  | parameters => "WF203"
  | mergeFanIn => "WF204"
  | conditions => "WF205"
  | rulePacks => "WF301"
  | parameterSets => "WF302"
  | agentProfiles => "WF303"
  | owner => "WF304"
  | evidence => "WF305"
  | rollout => "WF306"
  | dataConnectors => "WF307"

/-- One defect, with the node or the edge it was found at (`ValidationIssue`). -/
structure Issue where
  code : String
  severity : Severity := .error
  message : String
  nodeId : Option String := none
  edgeId : Option String := none
deriving DecidableEq

namespace Issue

/-- A broken rule. -/
def broken (rule : Rule) (message : String) : Issue := { code := rule.code, message }

def atNode (i : Issue) (id : String) : Issue := { i with nodeId := some id }

def atEdge (i : Issue) (id : String) : Issue := { i with edgeId := some id }

def isError (i : Issue) : Bool := i.severity = .error

@[simp] theorem isError_broken (rule : Rule) (message : String) :
    (broken rule message).isError = true := rfl

def ofFields (o : Fields) : Checked Issue :=
  Issue.mk
    <$> o.read ["code"] .text
    <*> o.readOr ["severity"] .error (.choice Severity)
    <*> o.read ["message"] .text
    <*> o.readOption ["nodeId", "node_id"] .text
    <*> o.readOption ["edgeId", "edge_id"] .text

def reader : Reader Issue := .record "ValidationIssue" ofFields

/-- The document of an issue; a place that is not given is `null`. -/
def toJson (i : Issue) : Json :=
  .object [("code", .text i.code), ("severity", .word i.severity), ("message", .text i.message),
    ("nodeId", .ofText? i.nodeId), ("edgeId", .ofText? i.edgeId)]

end Issue

/-- What validation found, in the order found (`ValidationResult`). -/
structure Verdict where
  issues : List Issue
deriving DecidableEq

namespace Verdict

/-- No issue is an error. -/
def valid (v : Verdict) : Bool := v.issues.all fun i => !i.isError

/-- The issues that are errors. -/
def errors (v : Verdict) : List Issue := v.issues.filter (·.isError)

/-- The code of every issue, in order. -/
def codes (v : Verdict) : List String := v.issues.map (·.code)

/-- The codes that occur, sorted and joined for a message. -/
def codeList (v : Verdict) : String := ", ".intercalate (Text.sorted v.codes)

/-- The issues of the first verdict, then those of the second. -/
def merge (v w : Verdict) : Verdict := ⟨v.issues ++ w.issues⟩

@[simp] theorem valid_merge (v w : Verdict) : (v.merge w).valid = (v.valid && w.valid) := by
  simp [valid, merge]

@[simp] theorem codes_merge (v w : Verdict) : (v.merge w).codes = v.codes ++ w.codes := by
  simp [codes, merge]

end Verdict

end WorkflowRelease
