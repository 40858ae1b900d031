import WorkflowRelease.Json.Literal
import WorkflowRelease.Reading.Choice
import WorkflowRelease.Text.Case

/-!
# Vocabularies of workflows

Modes, statuses, kinds of edges and the other fixed vocabularies of a workflow, and the two stages
at which it is validated. A stage may also be named in small letters and with blanks around it.
-/

namespace WorkflowRelease

/-- The topology that a workflow promises. -/
inductive Mode where
  | linear
  | dag
  | debate
deriving DecidableEq, Repr

inductive UsageMethod where
  | headless
  | copilot
  | onDemand
deriving DecidableEq, Repr

/-- Where a definition comes from; everybody may read a public one. -/
inductive TemplateSource where
  | isPublic
  | isPrivate
  | copied
deriving DecidableEq, Repr

/-- The status stamped inside a snapshot. -/
inductive SnapshotStatus where
  | draft
  | review
  | active
  | archived
deriving DecidableEq, Repr

inductive EdgeType where
  | data
  | control
  | condition
  | error
deriving DecidableEq, Repr

/-- What a node does when it fails. -/
inductive OnError where
  | failFast
  | carryOn
  | routeToError
deriving DecidableEq, Repr

/-- The stages of validation (`ValidationStage`). -/
inductive Stage where
  | save
  | publish
deriving DecidableEq, Repr

inductive Severity where
  | error
  | warning
deriving DecidableEq, Repr

instance : LawfulChoice Mode where
  title := "WorkflowMode"
  members := [.linear, .dag, .debate]
  word | .linear => "LINEAR" | .dag => "DAG" | .debate => "DEBATE"
  mem_members a := by cases a <;> simp
  word_inj a b := by cases a <;> cases b <;> simp

instance : LawfulChoice UsageMethod where
  title := "UsageMethod"
  members := [.headless, .copilot, .onDemand]
  word | .headless => "HEADLESS" | .copilot => "COPILOT" | .onDemand => "ON_DEMAND"
  mem_members a := by cases a <;> simp
  word_inj a b := by cases a <;> cases b <;> simp

instance : LawfulChoice TemplateSource where
  title := "TemplateSource"
  members := [.isPublic, .isPrivate, .copied]
  word | .isPublic => "PUBLIC" | .isPrivate => "PRIVATE" | .copied => "COPIED"
  mem_members a := by cases a <;> simp
  word_inj a b := by cases a <;> cases b <;> simp

instance : LawfulChoice SnapshotStatus where
  title := "DslStatus"
  members := [.draft, .review, .active, .archived]
  word | .draft => "DRAFT" | .review => "REVIEW" | .active => "ACTIVE" | .archived => "ARCHIVED"
  mem_members a := by cases a <;> simp
  word_inj a b := by cases a <;> cases b <;> simp

instance : LawfulChoice EdgeType where
  title := "EdgeType"
  members := [.data, .control, .condition, .error]
  word
    | .data => "data-edge"
    | .control => "control-edge"
    | .condition => "condition-edge"
    | .error => "error-edge"
  mem_members a := by cases a <;> simp
  word_inj a b := by cases a <;> cases b <;> simp

instance : LawfulChoice OnError where
  title := "OnErrorPolicy"
  members := [.failFast, .carryOn, .routeToError]
  word
    | .failFast => "FAIL_FAST"
    | .carryOn => "CONTINUE"
    | .routeToError => "ROUTE_TO_ERROR"
  mem_members a := by cases a <;> simp
  word_inj a b := by cases a <;> cases b <;> simp

instance : LawfulChoice Stage where
  title := "ValidationStage"
  members := [.save, .publish]
  word | .save => "SAVE" | .publish => "PUBLISH"
  mem_members a := by cases a <;> simp
  word_inj a b := by cases a <;> cases b <;> simp

instance : LawfulChoice Severity where
  title := "IssueSeverity"
  members := [.error, .warning]
  word | .error => "ERROR" | .warning => "WARNING"
  mem_members a := by cases a <;> simp
  word_inj a b := by cases a <;> cases b <;> simp

/-- What is said about a value that names no member of a vocabulary. -/
def Choice.refusal (α : Type) [Choice α] (v : Json) : String :=
  v.literal ++ " is not a valid " ++ Choice.title α

/-- The member that a value names. -/
def Choice.named (α : Type) [Choice α] (v : Json) : Except String α :=
  match v.text?.bind Choice.ofWord? with
  | some a => .ok a
  | none => .error (Choice.refusal α v)

/-- The member that a value names, or nothing for a value that counts as unset. -/
def Choice.namedOption (α : Type) [Choice α] (v : Json) : Except String (Option α) :=
  if v.isFalsy then .ok none else (Choice.named α v).map some

/-- The stage that a value names (`_missing_`): one of the words, in any letter case and with blanks
around. -/
def Stage.named? : Json → Option Stage
  | .text s =>
    match Choice.ofWord? s with
    | some stage => some stage
    | none => Choice.ofWord? (Text.upper (Text.strip s))
  | _ => none

/-- The stage that a value names, or what is said about a value that names none. -/
def Stage.named (v : Json) : Except String Stage :=
  match Stage.named? v with
  | some stage => .ok stage
  | none => .error (Choice.refusal Stage v)

end WorkflowRelease
