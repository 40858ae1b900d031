import WorkflowRelease.Json.Literal
import WorkflowRelease.Log.Entry
import WorkflowRelease.Text.Case
import WorkflowRelease.Text.Lines
import WorkflowRelease.Text.Quoted

/-!
# Loggers

A logger passes on the entries at or above its threshold, and so do those above it that stand since
the start (`get_logger`, `get_service_logger` and `get_audit_logger`). Names, thresholds and the
ways of logging are given by values of any kind; some names of fields are taken.
-/

namespace WorkflowRelease.Log

/-- Why something is not logged. -/
inductive Refusal where
  /-- The name of a logger is no text. -/
  | noName
  /-- A threshold or a way of a kind that has no letters to change. -/
  | noLetters (kind change : String)
  | unknownThreshold (name : String)
  /-- What is named is a text and not a threshold. -/
  | textThreshold (text : String)
  /-- What is named is neither a text nor a threshold. -/
  | otherThreshold (shown : String)
  | unknownWay (logger name : String)
  /-- What is named is a value of a kind and not a way of logging. -/
  | uncallable (kind : String)
  /-- What is named does something else, for which a message alone will not do. -/
  | misused (reason : String)
  | takenField (name : String)
  /-- A field has the name of what is given beside the fields. -/
  | givenTwice (name : String)
deriving DecidableEq, Repr

/-- The message for a refusal. -/
def Refusal.message : Refusal → String
  | noName => "A logger name must be a string"
  | noLetters kind change => "'" ++ kind ++ "' object has no attribute '" ++ change ++ "'"
  | unknownThreshold name => "module 'logging' has no attribute '" ++ name ++ "'"
  | textThreshold text => "Unknown level: " ++ Text.quoted text
  | otherThreshold shown => "Level not an integer or a valid string: " ++ shown
  | unknownWay logger name => "'" ++ logger ++ "' object has no attribute '" ++ name ++ "'"
  | uncallable kind => "'" ++ kind ++ "' object is not callable"
  | misused reason => reason
  | takenField name =>
    Text.quoted ("Attempt to overwrite " ++ Text.quoted name ++ " in LogRecord")
  | givenTwice name => "log_event() got multiple values for argument '" ++ name ++ "'"

structure Logger where
  name : String
  threshold : Nat := 20
  inJson : Bool := true
deriving DecidableEq, Repr

/-! ## Thresholds -/

/-- The thresholds by name. -/
def thresholds : List (String × Nat) :=
  [("DEBUG", 10), ("INFO", 20), ("WARN", 30), ("WARNING", 30), ("ERROR", 40), ("CRITICAL", 50),
    ("FATAL", 50), ("NOTSET", 0)]

/-- The names beside those of the thresholds, and why each of them is refused. -/
def otherNames : List (String × Refusal) :=
  [("BASIC_FORMAT", .textThreshold "%(levelname)s:%(name)s:%(message)s"),
    ("_STYLES", .otherThreshold ("\x7b'%': (<class 'logging.PercentStyle'>, " ++
      "'%(levelname)s:%(name)s:%(message)s'), '\x7b': (<class 'logging.StrFormatStyle'>, " ++
      "'\x7blevelname\x7d:\x7bname\x7d:\x7bmessage\x7d'), " ++
      "'$': (<class 'logging.StringTemplateStyle'>, " ++
      "'$\x7blevelname\x7d:$\x7bname\x7d:$\x7bmessage\x7d')\x7d"))]

/-- The threshold of a name in any letter case. -/
def thresholdOf : Json → Except Refusal Nat
  | .text s =>
    match thresholds.lookup (Text.upper s) with
    | some n => .ok n
    | none =>
      .error ((otherNames.lookup (Text.upper s)).getD (.unknownThreshold (Text.upper s)))
  | v => .error (.noLetters v.kind "upper")

/-! ## Names -/

/-- The name of the logger above all others. -/
def rootName : String := "root"

/-- What a name starts with that is below another one. -/
def below (name : String) : String := name ++ "."

/-- The loggers that stand since the start. They write objects. -/
def standing : List String :=
  ["registry_catalog", "governance", "workflow_store", "versioning", "workflow_definition"].map
    serviceName

namespace Logger

/-- The logger is the one above all others. -/
def isRoot (l : Logger) : Bool := l.name = rootName

/-- The logger is below one that stands since the start. -/
def isBelowStanding (l : Logger) : Bool :=
  standing.any fun name => (below name).toList.isPrefixOf l.name.toList

/-- How messages call the kind of a logger. -/
def kind (l : Logger) : String := if l.isRoot then "RootLogger" else "Logger"

/-- The kind of the logger above. -/
def parentKind (l : Logger) : String :=
  if l.isRoot then "NoneType" else if l.isBelowStanding then "Logger" else "RootLogger"

/-- The logger of a name with a named threshold. A name that counts as unset is that of the logger
above all others. -/
def named (name threshold format : Json) : Except Refusal Logger := do
  let name ← match name with
    | .text s => .ok (if s = "" then rootName else s)
    | v => if v.isFalsy then .ok rootName else .error .noName
  .ok ⟨name, ← thresholdOf threshold, decide (format = .text "json")⟩

/-- The logger of a service. -/
def service (name threshold format : Json) : Except Refusal Logger :=
  named (.text (serviceName name.shown)) threshold format

/-- The logger of the audit trail. -/
def audit : Logger := { name := auditName }

/-- The least weight that passes. Without a threshold of its own a logger passes what the one above
it does, and the one above all others everything. -/
def leastWeight (l : Logger) : Nat :=
  if l.threshold = 0 ∧ !l.isRoot then
    if l.isBelowStanding then Level.info.weight else Level.warning.weight
  else l.threshold

/-! ## Ways of logging -/

/-- The ways of logging by name: their level, and whether they report the error at hand. -/
def ways : List (String × Level × Bool) :=
  [("debug", .debug, false), ("info", .info, false), ("warn", .warning, false),
    ("warning", .warning, false), ("error", .error, false), ("exception", .error, true),
    ("critical", .critical, false), ("fatal", .critical, false)]

/-- What everything has under a name, a logger too. -/
def commonMembers (l : Logger) : List (String × Refusal) :=
  (["__delattr__", "__eq__", "__ge__", "__getattribute__", "__gt__", "__hash__", "__le__", "__lt__",
    "__ne__", "__setattr__", "__str__"].map fun name =>
      (name, .misused ("wrapper " ++ name ++ "() takes no keyword arguments"))) ++
  (["__dir__", "__format__", "__getstate__", "__init_subclass__", "__reduce_ex__",
    "__sizeof__"].map fun name =>
      (name, .misused (l.kind ++ "." ++ name ++ "() takes no keyword arguments"))) ++
  [("__class__", .misused (l.kind ++ ".__init__() got an unexpected keyword argument 'extra'")),
    ("__init__", .misused (l.kind ++ ".__init__() got an unexpected keyword argument 'extra'")),
    ("__reduce__", .misused (l.kind ++ ".__reduce__() got an unexpected keyword argument 'extra'")),
    ("__repr__", .misused "Logger.__repr__() got an unexpected keyword argument 'extra'"),
    ("__new__", .misused "object.__new__(X): X is not a type object (str)"),
    ("__subclasshook__", .misused "__subclasshook__() takes no keyword arguments"),
    ("__dict__", .uncallable "dict"), ("__doc__", .uncallable "str"),
    ("__module__", .uncallable "str"), ("__weakref__", .uncallable "NoneType")]

/-- What else a logger has under a name, and why it is no way of logging. -/
def otherMembers (l : Logger) : List (String × Refusal) :=
  [("log", .misused "Logger.log() missing 1 required positional argument: 'msg'"),
    ("_log", .misused "Logger._log() missing 2 required positional arguments: 'msg' and 'args'"),
    ("handle", .misused "Logger.handle() got an unexpected keyword argument 'extra'"),
    ("filter", .misused "Filterer.filter() got an unexpected keyword argument 'extra'"),
    ("name", .uncallable "str"), ("level", .uncallable "int"), ("handlers", .uncallable "list"),
    ("filters", .uncallable "list"), ("propagate", .uncallable "bool"),
    ("disabled", .uncallable "bool"), ("_cache", .uncallable "dict"),
    ("manager", .uncallable "Manager"), ("root", .uncallable "RootLogger"),
    ("parent", .uncallable l.parentKind)] ++ l.commonMembers

/-- The way of a name in any letter case. -/
def wayOf (l : Logger) : Json → Except Refusal (Level × Bool)
  | .text s =>
    match ways.lookup (Text.lower s) with
    | some way => .ok way
    | none =>
      .error ((l.otherMembers.lookup (Text.lower s)).getD (.unknownWay l.kind (Text.lower s)))
  | v => .error (.noLetters v.kind "lower")

/-- Names of fields that are taken by the entry itself. -/
def takenFields : List String :=
  ["message", "asctime", "name", "msg", "args", "levelname", "levelno", "pathname", "filename",
    "module", "exc_info", "exc_text", "stack_info", "lineno", "funcName", "created", "msecs",
    "relativeCreated", "thread", "threadName", "processName", "process"]

/-- The name of the way among the fields of an event. -/
def wayField : String := "level"

/-- The names of what is given beside the fields of an event: a way only if it is no field. -/
def parameters (way : Option Json) : List String :=
  ["logger", "event"] ++ (way.map fun _ => wayField).toList

/-- The entry that is logged, if it passes. Names of fields are looked at only then. -/
def log (l : Logger) (message : String) (way : Json) (fields : Fields) :
    Except Refusal (Option Entry) :=
  match l.wayOf way with
  | .error r => .error r
  | .ok (level, reportsError) =>
    if level.weight < l.leastWeight then .ok none
    else match fields.keys.find? (· ∈ takenFields) with
      | some name => .error (.takenField name)
      | none => .ok (some ⟨l.name, level, message, fields, reportsError⟩)

/-- The entry of an event, the way of which may be given among its fields (`log_event`). -/
def logEvent (l : Logger) (message : String) (way : Option Json) (fields : Fields) :
    Except Refusal (Option Entry) :=
  match fields.keys.find? (· ∈ parameters way), way with
  | some name, _ => .error (.givenTwice name)
  | none, some way => l.log message way fields
  | none, none =>
    l.log message ((fields.get? wayField).getD (.text "INFO")) (fields.erase wayField)

/-! ## Writing -/

/-- An entry as the logger writes it. -/
def write (l : Logger) (time : String) (e : Entry) : String :=
  if l.inJson then e.line time else e.plain time

/-- The lines that the logger writes for an entry. -/
def lines (l : Logger) (time : String) (e : Entry) : List String :=
  Text.linesOf (l.write time e ++ "\n")

/-- The lines that are printed for an entry, also by a logger above. -/
def printed (l : Logger) (time : String) (e : Entry) : List String :=
  l.lines time e ++ if l.isBelowStanding then [e.line time] else []

end Logger

end WorkflowRelease.Log
