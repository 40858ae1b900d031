import WorkflowRelease.Issue
import WorkflowRelease.Workflow.FieldTypes
import WorkflowRelease.Workflow.Graph
import WorkflowRelease.Workflow.References

/-!
# Data contracts

Rules about what flows between nodes: the types on both sides of a data edge, the nodes and fields
that input bindings name, and parameters, which need a bound set.
-/

namespace WorkflowRelease.Structure

/-- The references in the texts that an object binds, each with the path it is bound to. -/
def boundReferences (bindings : Json) : List (String × Expression) :=
  (Json.flatten bindings).flatMap fun e =>
    match e.2 with
    | .text s => (Expression.scan s).map (e.1, ·)
    | _ => []

/-- Target and source path of what is bound from one node (`_binding_pairs`). -/
def bindingPairs (bindings : Json) (source : String) : List (String × String) :=
  ((boundReferences bindings).filter (·.2.scope = source)).map fun b => (b.1, b.2.path)

/-- The bindings of a node as a value. -/
def bindingsOf (n : Node) : Json := (n.inputBindings.map Json.object).getD .null

/-- The paths that a data edge connects: those bound from its source, or without any binding every
input path with the output of the same name. -/
def connectedPaths (source target : Node) (inputs : FieldTypes) : List (String × String) :=
  match bindingPairs (bindingsOf target) source.id with
  | [] => inputs.map fun t => (t.1, t.1)
  | pairs => pairs

/-- What is wrong with one connected pair of paths. -/
def pairFault? (e : Edge) (source target : Node) (outputs inputs : FieldTypes)
    (paths : String × String) : Option Issue :=
  match outputs.resolve paths.2, inputs.resolve paths.1 with
  | some s, some t =>
    if FieldTypes.compatible s t then none
    else some ((Issue.broken .fieldTypes ("Data edge " ++ e.id ++
      " connects incompatible fields: " ++ source.name ++ "." ++ paths.2 ++ "(" ++ s ++ ") -> " ++
      target.name ++ "." ++ paths.1 ++ "(" ++ t ++ ")")).atEdge e.id)
  | _, _ => none

def edgeFieldTypes (g : Graph) (e : Edge) : List Issue :=
  match g.node? e.source, g.node? e.target with
  | some source, some target =>
    match FieldTypes.outputs? source, FieldTypes.inputs? target with
    | some outputs, some inputs =>
      (connectedPaths source target inputs).filterMap (pairFault? e source target outputs inputs)
    | _, _ => []
  | _, _ => []

/-- What `_check_data_edge_types` finds. -/
def fieldTypes (w : Workflow) (g : Graph) : List Issue :=
  (w.edges.filter (·.type = .data)).flatMap (edgeFieldTypes g)

/-- What is wrong with one reference in the bindings of a node. -/
def referenceFault? (g : Graph) (n : Node) (ref : Expression) : Option Issue :=
  if ref.scope = Expression.paramsScope ∨ ref.scope = Expression.metaScope then none
  else match g.node? ref.scope with
    | none => some ((Issue.broken .bindingSources ("Input binding of " ++ n.name ++
        " references unknown node: " ++ ref.scope)).atNode n.id)
    | some source =>
      match FieldTypes.outputs? source with
      | none => none
      | some outputs =>
        if (outputs.resolve ref.path).isSome then none
        else some ((Issue.broken .bindingSources ("Input binding of " ++ n.name ++
          " references unknown field: " ++ ref.scope ++ "." ++ ref.path)).atNode n.id)

/-- What `_check_input_binding_refs` finds. -/
def bindingSources (g : Graph) : List Issue :=
  g.nodes.flatMap fun n =>
    (boundReferences (bindingsOf n)).filterMap fun b => referenceFault? g n b.2

/-- What `_check_parameter_bindings_declared` finds. -/
def parameters (w : Workflow) : List Issue :=
  if w.parameterCodes ≠ [] ∧ w.boundSets = [] then
    [.broken .parameters ("Parameter expressions (" ++ ", ".intercalate w.parameterCodes ++
      ") are used but no paramSetBindings are declared")]
  else []

end WorkflowRelease.Structure
