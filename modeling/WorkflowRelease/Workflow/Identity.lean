import WorkflowRelease.Workflow.Snapshot

/-!
# The identity of a workflow

Stamping the identity fields of a definition onto a document of a workflow (`canonicalize`), and the
document that a new workflow starts from (`build_skeleton`). The identity comes from the definition
alone: what the document says under these names does not count.
-/

namespace WorkflowRelease

/-- The identity that a definition gives to its workflows. -/
structure Identity where
  workflowId : Json
  name : Json
  mode : Mode
  usageMethod : Option UsageMethod := none
  ownerUserId : Json := .null
  templateSource : Option TemplateSource := none
deriving DecidableEq

/-- The identity that named values give. The mode has to be one of its words; usage method and
template source have to be, unless they count as unset. All else is taken as it is. -/
def Identity.ofFields (o : Fields) : Except String Identity := do
  let value (name : String) := (o.get? name).getD .null
  let mode ← Choice.named Mode (value "mode")
  let usageMethod ← Choice.namedOption UsageMethod (value "usage_method")
  let templateSource ← Choice.namedOption TemplateSource (value "template_source")
  .ok { workflowId := value "workflow_id", name := value "name", mode, usageMethod,
        ownerUserId := value "owner_user_id", templateSource }

/-- The identity as entries of a document. -/
def Identity.fields (i : Identity) : Fields :=
  [("workflowId", i.workflowId), ("name", i.name), ("mode", .word i.mode),
    ("usageMethod", .ofWord? i.usageMethod), ("ownerUserId", i.ownerUserId),
    ("templateSource", .ofWord? i.templateSource)]

namespace Skeleton

def node (id type name : String) (config : Fields) : Fields :=
  [("id", .text id), ("type", .text type), ("name", .text name), ("config", .object config)]

/-- The nodes between trigger and notification (`skeleton_nodes`). -/
def middle : Mode → List (String × Fields)
  | .debate =>
    [("context", node "n_context" "context-builder" "Build context" []),
      ("debate", node "n_debate" "debate-round" "Debate round" [("maxRounds", .int 3)]),
      ("judge", node "n_judge" "judge-agent" "Judge" [])]
  | .linear | .dag => []

/-- The chain of nodes of a new workflow, under the part of their id that names them. -/
def chain (mode : Mode) : List (String × Fields) :=
  ("trigger", node "n_trigger" "manual-trigger" "Manual trigger" []) :: middle mode ++
    [("notify", node "n_notify" "notify" "Publish result"
      [("channels", .list [.text "DASHBOARD"])])]

def edge (source target : String) : Json :=
  .object [("id", .text ("e_" ++ source ++ "_" ++ target)), ("from", .text ("n_" ++ source)),
    ("to", .text ("n_" ++ target)), ("edgeType", .word EdgeType.control)]

/-- Control edges from each node to the next. -/
def edges : List String → List Json
  | source :: target :: rest => edge source target :: edges (target :: rest)
  | _ => []

/-- The document of a new workflow, without its identity. -/
def document (mode : Mode) (nodeDefaults : Fields) : Fields :=
  [("version", .text "1.0.0"), ("status", .word SnapshotStatus.draft),
    ("nodes", .list ((chain mode).map fun n => .object n.2)),
    ("edges", .list (edges ((chain mode).map (·.1)))),
    ("runPolicy", .object [("nodeDefaults", .object nodeDefaults)])]

end Skeleton

/-- The workflow of a document under an identity; without a document it is a new workflow. -/
def Workflow.canonicalize (document : Option Fields) (identity : Identity)
    (nodeDefaults : Fields) : Checked Workflow :=
  ofFields ((document.getD (Skeleton.document identity.mode nodeDefaults)).update identity.fields)

end WorkflowRelease
