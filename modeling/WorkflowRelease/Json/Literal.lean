import WorkflowRelease.Json.Basic
import WorkflowRelease.Text.Quoted

/-!
# How messages show a value

The name of a kind of values, and the text of a value inside a message: texts are quoted, entries
follow each other with a comma and a blank, and the three constants are capitalised.
-/

namespace WorkflowRelease.Json

def boolLiteral (b : Bool) : String := if b then "True" else "False"

/-- How messages call the kind of a value. -/
def kind : Json → String
  | .null => "NoneType"
  | .bool _ => "bool"
  | .int _ => "int"
  | .float _ => "float"
  | .text _ => "str"
  | .list _ => "list"
  | .object _ => "dict"

mutual

/-- The value as a message shows it. -/
def literal : Json → String
  | .null => "None"
  | .bool b => boolLiteral b
  | .int n => toString n
  | .float x => x.text
  | .text s => Text.quoted s
  | .list items => "[" ++ ", ".intercalate (literals items) ++ "]"
  | .object fields => "\x7b" ++ ", ".intercalate (entryLiterals fields) ++ "\x7d"

def literals : List Json → List String
  | [] => []
  | v :: vs => literal v :: literals vs

def entryLiterals : List (String × Json) → List String
  | [] => []
  | (k, v) :: es => (Text.quoted k ++ ": " ++ literal v) :: entryLiterals es

end

/-- The value within running text: a text stands as it is. -/
def shown : Json → String
  | .text s => s
  | v => v.literal

end WorkflowRelease.Json
