import WorkflowRelease.Expression.Codes
import WorkflowRelease.Text.DecimalDigit
import WorkflowRelease.Workflow.Basic

/-!
# Field contracts

The types that a node declares for its outputs and inputs, as a flat map from field paths to type
words, and the type of a path under such a map: that of the path itself or of its closest declared
ancestor. Main statement: `resolve_of_mem`, a declared path has its declared type.
-/

namespace WorkflowRelease

/-- Type words under field paths, in order. -/
abbrev FieldTypes := List (String × String)

namespace FieldTypes

def knownTypes : List String :=
  ["string", "number", "boolean", "object", "array", "null", "unknown"]

/-- Words for numbers of a special kind. -/
def numberAliases : List String := ["int", "integer", "float", "double"]

/-- The type word that a declaration means (`normalize_type`); what is not known is `unknown`. -/
def normalize (declared : String) : String :=
  let word := Text.lower (Text.strip declared)
  if word ∈ numberAliases then "number" else if word ∈ knownTypes then word else "unknown"

/-- The type word of a declared field (`_type_token`): the field itself, or its `type` entry. -/
def typeWord? : Json → Option String
  | .text s => some (normalize s)
  | .object o => (Fields.get? o "type").bind fun v => v.text?.map normalize
  | _ => none

/-- The declarations in a schema: its `properties`, else its `fields`, else the schema itself. -/
def declarations (schema : Fields) : Fields :=
  match (schema.get? "properties").bind Json.object? with
  | some o => o
  | none => ((schema.get? "fields").bind Json.object?).getD schema

/-- The field map of a schema (`field_type_map`); one that types nothing has none. -/
def ofSchema? : Json → Option FieldTypes
  | .object schema =>
    let types := (declarations schema).filterMap fun e => (typeWord? e.2).map (e.1, ·)
    if types.isEmpty then none else some types
  | _ => none

def outputKeys : List String := ["outputSchema", "outputSchemaDef", "outputFields"]

def inputKeys : List String := ["inputSchema", "expectedInputSchema", "inputFields"]

/-- The first field map under some keys of a node's configuration (`_first_map`). -/
def ofConfig? (config : Fields) (keys : List String) : Option FieldTypes :=
  keys.findSome? fun key => (config.get? key).bind ofSchema?

/-- What a node says that it puts out (`output_field_types`). -/
def outputs? (n : Node) : Option FieldTypes :=
  match n.outputSchema.bind ofSchema? with
  | some types => some types
  | none => ofConfig? n.config outputKeys

/-- What a node says that it takes in (`input_field_types`). -/
def inputs? (n : Node) : Option FieldTypes := ofConfig? n.config inputKeys

/-! ## The type of a path -/

/-- The digits of an index and the text behind its closing bracket, given the text behind the
opening one. -/
def index? (cs : List Char) : Option (List Char × List Char) :=
  match cs.takeWhile Text.isDigit, cs.dropWhile Text.isDigit with
  | [], _ => none
  | d :: ds, ']' :: rest => some (d :: ds, rest)
  | _, _ => none

theorem length_of_index? {cs ds rest : List Char} (h : index? cs = some (ds, rest)) :
    rest.length < cs.length := by
  have hd := (List.dropWhile_suffix Text.isDigit (l := cs)).length_le
  unfold index? at h
  split at h
  · cases h
  · rename_i hdrop
    rw [hdrop] at hd
    cases h
    simp at hd
    omega
  · cases h

/-- The path with every index `[n]` written as a segment `.n` (`_INDEX_PATTERN`). -/
def dotIndexes : List Char → List Char
  | [] => []
  | '[' :: cs =>
    match _h : index? cs with
    | some (ds, rest) => '.' :: (ds ++ dotIndexes rest)
    | none => '[' :: dotIndexes cs
  | c :: cs => c :: dotIndexes cs
termination_by cs => cs.length
decreasing_by
  · have := length_of_index? _h
    simp
    omega
  · simp
  · simp

/-- The path and its ancestors, the longest first. -/
def ancestors (path : List Char) : List String :=
  let segments := Text.split '.' path
  (List.range segments.length).map fun i =>
    String.ofList (Text.joinWith '.' (segments.take (segments.length - i)))

/-- The type of a path (`resolve_field_type`): as it is declared, or else that of the closest
declared ancestor once indexes are written as segments. -/
def resolve (types : FieldTypes) (path : String) : Option String :=
  match types.lookup path with
  | some t => some t
  | none => (ancestors (dotIndexes path.toList)).findSome? (List.lookup · types)

/-- Two types fit unless both are known and they differ (`is_type_compatible`). -/
def compatible (source target : String) : Bool :=
  source = "unknown" || target = "unknown" || source = target

theorem resolve_of_mem {types : FieldTypes} {path t : String} (h : types.lookup path = some t) :
    resolve types path = some t := by simp [resolve, h]

end FieldTypes

end WorkflowRelease
