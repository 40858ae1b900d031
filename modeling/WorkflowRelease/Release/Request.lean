import WorkflowRelease.Release.Record

/-!
# Requests

What may be asked for, and what is accepted as a request. A request to publish says which version it
means (`require_target`).
-/

namespace WorkflowRelease

structure CreateRequest where
  workflowId : String
  name : String
  description : Option String := none
  mode : Mode
  usageMethod : UsageMethod := .onDemand
  source : TemplateSource := .isPrivate
  snapshot : Option Fields := none
  changelog : Option String := none
deriving DecidableEq

structure VersionRequest where
  snapshot : Fields
  changelog : Option String := none
deriving DecidableEq

/-- What may be edited; what is not set stays. -/
structure UpdateRequest where
  name : Option String := none
  description : Option String := none
  usageMethod : Option UsageMethod := none
deriving DecidableEq

/-- The version to publish, by id or by code or both. -/
structure PublishRequest where
  versionId : Option String := none
  versionCode : Option String := none
  comment : Option String := none
deriving DecidableEq

/-- Which definitions are wanted, and which page of them (`DefinitionQuery`). -/
structure Query where
  keyword : Option String := none
  mode : Option Mode := none
  usageMethod : Option UsageMethod := none
  status : Option DefinitionStatus := none
  includePublic : Bool := true
  page : Int := 1
  pageSize : Int := 20
deriving DecidableEq

/-- A text that is given and not empty. -/
def given? (s : Option String) : Option String := s.filter fun s => decide (s ≠ "")

/-! ## Reading -/

open Reader

/-- The characters of the id of a workflow. -/
def isIdCharacter (c : Char) : Bool := c.isAlphanum || c = '_' || c = '-'

/-- Three to a hundred letters, digits, bars and hyphens. -/
def isWorkflowId (s : String) : Bool :=
  s.toList.all isIdCharacter && 3 ≤ s.length && s.length ≤ 100

/-- How messages write the rule for the id of a workflow. -/
def workflowIdPattern : String := "^[a-zA-Z0-9_-]\x7b3,100\x7d$"

def workflowId : Reader String :=
  refine text fun s => if isWorkflowId s then none else some (.mismatch workflowIdPattern)

namespace CreateRequest

def ofFields (o : Fields) : Checked CreateRequest :=
  CreateRequest.mk
    <$> o.read ["workflow_id"] WorkflowRelease.workflowId
    <*> o.read ["name"] (textBetween 1 (some 120))
    <*> o.readOption ["description"] (textBetween 0 (some 500))
    <*> o.read ["mode"] (choice Mode)
    <*> o.readOr ["usage_method"] .onDemand (choice UsageMethod)
    <*> o.readOr ["template_source"] .isPrivate (choice TemplateSource)
    <*> o.readOption ["dsl_snapshot"] mapping
    <*> o.readOption ["changelog"] text

def title : String := "CreateWorkflowDefinitionRequest"

def read : Reader CreateRequest := record title ofFields

def toJson (r : CreateRequest) : Json :=
  .object [("workflow_id", .text r.workflowId), ("name", .text r.name),
    ("description", .ofText? r.description), ("mode", .word r.mode),
    ("usage_method", .word r.usageMethod), ("template_source", .word r.source),
    ("dsl_snapshot", (r.snapshot.map Json.object).getD .null), ("changelog", .ofText? r.changelog)]

end CreateRequest

namespace VersionRequest

def ofFields (o : Fields) : Checked VersionRequest :=
  VersionRequest.mk <$> o.read ["dsl_snapshot"] mapping <*> o.readOption ["changelog"] text

def title : String := "CreateWorkflowVersionRequest"

def read : Reader VersionRequest := record title ofFields

def toJson (r : VersionRequest) : Json :=
  .object [("dsl_snapshot", .object r.snapshot), ("changelog", .ofText? r.changelog)]

end VersionRequest

namespace UpdateRequest

def ofFields (o : Fields) : Checked UpdateRequest :=
  UpdateRequest.mk
    <$> o.readOption ["name"] (textBetween 1 (some 120))
    <*> o.readOption ["description"] (textBetween 0 (some 500))
    <*> o.readOption ["usage_method"] (choice UsageMethod)

def title : String := "UpdateWorkflowDefinitionRequest"

def read : Reader UpdateRequest := record title ofFields

/-- The fields that are set, sorted. -/
def changed (r : UpdateRequest) : List String :=
  [("description", r.description.isSome), ("name", r.name.isSome),
    ("usage_method", r.usageMethod.isSome)].filterMap fun f => if f.2 then some f.1 else none

def toJson (r : UpdateRequest) : Json :=
  .object [("name", .ofText? r.name), ("description", .ofText? r.description),
    ("usage_method", .ofWord? r.usageMethod)]

end UpdateRequest

namespace PublishRequest

def ofFields (o : Fields) : Checked PublishRequest :=
  PublishRequest.mk
    <$> o.readOption ["version_id"] text
    <*> o.readOption ["version_code"] text
    <*> o.readOption ["comment"] (textBetween 0 (some 500))

/-- What the request calls the version. -/
def target? (r : PublishRequest) : Option String := (given? r.versionId).or (given? r.versionCode)

def title : String := "PublishWorkflowVersionRequest"

/-- Reads a request, which has to name a version; that is looked at once all fields are read. -/
def read : Reader PublishRequest :=
  refine (record title ofFields) fun r =>
    if r.target?.isSome then none else some (.refused "version_id or version_code is required")

def toJson (r : PublishRequest) : Json :=
  .object [("version_id", .ofText? r.versionId), ("version_code", .ofText? r.versionCode),
    ("comment", .ofText? r.comment)]

end PublishRequest

namespace Query

def ofFields (o : Fields) : Checked Query :=
  Query.mk
    <$> o.readOption ["keyword"] text
    <*> o.readOption ["mode"] (choice Mode)
    <*> o.readOption ["usage_method"] (choice UsageMethod)
    <*> o.readOption ["status"] (choice DefinitionStatus)
    <*> o.readOr ["include_public"] true boolean
    <*> o.readOr ["page"] 1 (integerBetween (some 1) none)
    <*> o.readOr ["page_size"] 20 (integerBetween (some 1) (some 100))

def title : String := "DefinitionQuery"

def read : Reader Query := record title ofFields

def toJson (q : Query) : Json :=
  .object [("keyword", .ofText? q.keyword), ("mode", .ofWord? q.mode),
    ("usage_method", .ofWord? q.usageMethod), ("status", .ofWord? q.status),
    ("include_public", .bool q.includePublic), ("page", .int q.page),
    ("page_size", .int q.pageSize)]

end Query

end WorkflowRelease
