import WorkflowRelease.Workflow.Basic

/-!
# Reading workflows

Each field is read under its name in a document or its plain name; the former wins. All faults are
reported, fields in their order and list elements in theirs. A run policy keeps every entry that is
not one of its fields, an outvoted plain name included.
-/

namespace WorkflowRelease

open Reader

def NodePolicy.ofFields (o : Fields) : Checked NodePolicy :=
  NodePolicy.mk
    <$> o.readOption ["timeoutMs", "timeout_ms"] (integerBetween (some 1000) (some 120000))
    <*> o.readOption ["retryCount", "retry_count"] (integerBetween (some 0) (some 5))
    <*> o.readOption ["retryBackoffMs", "retry_backoff_ms"] (integerBetween (some 0) (some 60000))
    <*> o.readOption ["onError", "on_error"] (choice OnError)

def NodePolicy.reader : Reader NodePolicy := record "NodeRuntimePolicy" NodePolicy.ofFields

/-- Entries of a run policy that are not its field: when the field is there under its name in a
document, its plain name is an entry like any other. -/
def RunPolicy.othersOf (o : Fields) : Fields :=
  match o.findFirst ["nodeDefaults", "node_defaults"] with
  | some (name, _) => o.erase name
  | none => o

def RunPolicy.ofFields (o : Fields) : Checked RunPolicy :=
  (RunPolicy.mk · (RunPolicy.othersOf o))
    <$> o.readOption ["nodeDefaults", "node_defaults"] NodePolicy.reader

def Node.ofFields (o : Fields) : Checked Node :=
  Node.mk
    <$> o.read ["id"] nonempty
    <*> o.read ["type"] nonempty
    <*> o.read ["name"] nonempty
    <*> o.readOr ["enabled"] true boolean
    <*> o.readOr ["config"] [] mapping
    <*> o.readOption ["runtimePolicy", "runtime_policy"] NodePolicy.reader
    <*> o.readOption ["inputBindings", "input_bindings"] mapping
    <*> o.readOption ["outputSchema", "output_schema"] any

def Node.reader : Reader Node := record "WorkflowNode" Node.ofFields

def Edge.ofFields (o : Fields) : Checked Edge :=
  Edge.mk
    <$> o.read ["id"] nonempty
    <*> o.read ["from", "from_"] nonempty
    <*> o.read ["to"] nonempty
    <*> o.readOr ["edgeType", "edge_type"] .control (choice EdgeType)
    <*> o.readOption ["condition"] any

def Edge.reader : Reader Edge := record "WorkflowEdge" Edge.ofFields

def Workflow.ofFields (o : Fields) : Checked Workflow :=
  Workflow.mk
    <$> o.readOr ["workflowId", "workflow_id"] "" text
    <*> o.readOr ["name"] "" text
    <*> o.readOption ["mode"] (choice Mode)
    <*> o.readOption ["usageMethod", "usage_method"] (choice UsageMethod)
    <*> o.readOr ["version"] "1.0.0" text
    <*> o.readOr ["status"] .draft (choice SnapshotStatus)
    <*> o.readOption ["ownerUserId", "owner_user_id"] text
    <*> o.readOption ["templateSource", "template_source"] (choice TemplateSource)
    <*> o.readOr ["nodes"] [] (list Node.reader)
    <*> o.readOr ["edges"] [] (list Edge.reader)
    <*> o.readOption ["runPolicy", "run_policy"] (record "RunPolicy" RunPolicy.ofFields)
    <*> o.readOr ["agentBindings", "agent_bindings"] [] (list text)
    <*> o.readOr ["paramSetBindings", "param_set_bindings"] [] (list text)
    <*> o.readOr ["dataConnectorBindings", "data_connector_bindings"] [] (list text)
    <*> o.readOption ["outputConfig", "output_config"] mapping
    <*> o.readOption ["experimentConfig", "experiment_config"] mapping

/-- Reads a workflow, or reports everything that keeps the value from being one. -/
def Workflow.reader : Reader Workflow := record "WorkflowDsl" Workflow.ofFields

end WorkflowRelease
