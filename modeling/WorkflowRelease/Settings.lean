import WorkflowRelease.Json.Literal
import WorkflowRelease.Settings.Location
import WorkflowRelease.Workflow.NodeKind

/-!
# Settings

The settings of a service (`Config`): built-in defaults, and what a file and the environment put in
their place (`load_config`). What a file sets is taken as it is, of whatever type. Two entries, the
number of retries and the pause between them, may also be set to a value that counts as unset.
-/

namespace WorkflowRelease

structure Settings where
  dataDir : Json := .text "./data/workflows"
  logLevel : Json := .text "INFO"
  logFormat : Json := .text "json"
  logsPath : Json := .text "./logs"
  auditToFile : Json := .bool false
  minPublishedVersion : Json := .int 2
  registryCatalogPath : Json := .text "configs/registries.yaml"
  outputNodeTypes : Json := .texts outputTypes
  timeoutMs : Json := .int 30000
  retryCount : Json := .int 1
  retryBackoffMs : Json := .int 2000
  onError : Json := .text "FAIL_FAST"
deriving DecidableEq

/-- What the environment sets. -/
structure Environment where
  dataDir : Option String := none
  logLevel : Option String := none
deriving DecidableEq

namespace Settings

/-! ## From a file -/

/-- The value under a path of keys (`get`). An empty object is no value. -/
def valueAt? : Json → List String → Option Json
  | v, [] => if v = .object [] then none else some v
  | .object o, key :: keys => match Fields.get? o key with
    | some v => valueAt? v keys
    | none => none
  | _, _ :: _ => none

/-- The value under a path of keys, unless it counts as unset. -/
def set? (file : Json) (keys : List String) : Option Json :=
  (valueAt? file keys).filter fun v => !v.isFalsy

/-- A variable of the environment, unless it is empty. -/
def nonempty? (value : Option String) : Option Json :=
  (value.filter fun s => decide (s ≠ "")).map .text

/-- The settings of a file in an environment, which wins over the file. -/
def ofFile (file : Json) (environment : Environment) : Settings :=
  let defaults : Settings := {}
  let read (keys : List String) (fallback : Json) := (set? file keys).getD fallback
  { dataDir := (nonempty? environment.dataDir).getD (read ["storage", "data_dir"] defaults.dataDir)
    logLevel := (nonempty? environment.logLevel).getD (read ["logging", "level"] defaults.logLevel)
    logFormat := read ["logging", "format"] defaults.logFormat
    logsPath := read ["logging", "logs_dir"] defaults.logsPath
    auditToFile := .bool (set? file ["logging", "audit_to_file"]).isSome
    minPublishedVersion :=
      read ["governance", "min_published_version"] defaults.minPublishedVersion
    registryCatalogPath := read ["governance", "catalog_path"] defaults.registryCatalogPath
    outputNodeTypes := read ["governance", "output_node_types"] defaults.outputNodeTypes
    timeoutMs := read ["run_policy", "defaults", "timeout_ms"] defaults.timeoutMs
    retryCount :=
      (valueAt? file ["run_policy", "defaults", "retry_count"]).getD defaults.retryCount
    retryBackoffMs :=
      (valueAt? file ["run_policy", "defaults", "retry_backoff_ms"]).getD defaults.retryBackoffMs
    onError := read ["run_policy", "defaults", "on_error"] defaults.onError }

/-- The settings when there may be a file. Without one the environment does not count. -/
def load (file : Option Json) (environment : Environment) : Settings :=
  match file with
  | some v => ofFile v environment
  | none => {}

/-! ## By name -/

/-- The settings with some of them given by name. -/
def ofFields (o : Fields) : Settings :=
  let defaults : Settings := {}
  let read (name : String) (fallback : Json) := (o.get? name).getD fallback
  { dataDir := read "data_dir" defaults.dataDir
    logLevel := read "log_level" defaults.logLevel
    logFormat := read "log_format" defaults.logFormat
    logsPath := read "logs_path" defaults.logsPath
    auditToFile := read "audit_to_file" defaults.auditToFile
    minPublishedVersion := read "min_published_version" defaults.minPublishedVersion
    registryCatalogPath := read "registry_catalog_path" defaults.registryCatalogPath
    outputNodeTypes := read "output_node_types" defaults.outputNodeTypes
    timeoutMs := read "default_timeout_ms" defaults.timeoutMs
    retryCount := read "default_retry_count" defaults.retryCount
    retryBackoffMs := read "default_retry_backoff_ms" defaults.retryBackoffMs
    onError := read "default_on_error" defaults.onError }

/-- The settings under their names. -/
def fields (s : Settings) : Fields :=
  [("data_dir", s.dataDir), ("log_level", s.logLevel), ("log_format", s.logFormat),
    ("logs_path", s.logsPath), ("audit_to_file", s.auditToFile),
    ("min_published_version", s.minPublishedVersion),
    ("registry_catalog_path", s.registryCatalogPath), ("output_node_types", s.outputNodeTypes),
    ("default_timeout_ms", s.timeoutMs), ("default_retry_count", s.retryCount),
    ("default_retry_backoff_ms", s.retryBackoffMs), ("default_on_error", s.onError)]

/-! ## What the settings mean -/

/-- The run policy of the nodes of a new workflow (`default_node_policy`), as entries of a
document. -/
def nodeDefaults (s : Settings) : Fields :=
  [("timeoutMs", s.timeoutMs), ("retryCount", s.retryCount),
    ("retryBackoffMs", s.retryBackoffMs), ("onError", s.onError)]

/-- The normal form of a location that is set, if it is a text. -/
def location? (v : Json) : Option String := v.text?.map Location.normal

/-- Why a value is no collection of node types. -/
inductive NoCollection where
  /-- A value of this kind has no elements. -/
  | noElements (kind : String)
  /-- An element of this kind cannot be looked up. -/
  | noElement (kind : String)
deriving DecidableEq, Repr

def NoCollection.message : NoCollection → String
  | noElements kind => "'" ++ kind ++ "' object is not iterable"
  | noElement kind => "unhashable type: '" ++ kind ++ "'"

/-- A list or an object cannot be looked up. -/
def isElement : Json → Bool
  | .list _ | .object _ => false
  | _ => true

/-- The node types that a value lists: the texts in a list, the keys of an object, or the characters
of a text. -/
def typesOf : Json → Except NoCollection (List String)
  | .list items => match items.find? fun v => !isElement v with
    | some v => .error (.noElement v.kind)
    | none => .ok (items.filterMap Json.text?)
  | .object fields => .ok (Fields.keys fields)
  | .text s => .ok (s.toList.map Char.toString)
  | v => .error (.noElements v.kind)

/-- The node types that count as outputs. -/
def outputs (s : Settings) : Except NoCollection (List String) := typesOf s.outputNodeTypes

end Settings

end WorkflowRelease
