/-!
# Faults of a document

What may be wrong with a value that is read as a record, where it stands, and the message for it.
A fault is a cause with a place; wording is `Fault.message` alone.
-/

namespace WorkflowRelease

/-- One step into a value. -/
inductive Step where
  | key (name : String)
  | index (i : Nat)
deriving DecidableEq, Repr

/-- Why a value is refused. -/
inductive Cause where
  | missing
  | notText
  | tooShort (least : Nat)
  | tooLong (most : Nat)
  | mismatch (pattern : String)
  | notInteger
  | fractional
  | unreadableInteger
  | oversizedInteger
  | below (least : Int)
  | above (most : Int)
  | notBoolean
  | unreadableBoolean
  | notOneOf (options : List String)
  | notMapping
  | notList
  | notRecord (name : String)
  | refused (reason : String)
  /-- The text of a stored document is no JSON. -/
  | unparsable
  /-- A stored document has something else where an object belongs. -/
  | notObject
  /-- A stored document has something else where an array belongs. -/
  | notArray
deriving DecidableEq, Repr

/-- A cause and the place it was found at, outermost step first. -/
structure Fault where
  cause : Cause
  place : List Step := []
deriving DecidableEq, Repr

/-- Alternatives in a row: commas, and `or` before the last. -/
def alternatives : List String → String
  | [] => ""
  | [s] => s
  | [s, t] => s ++ " or " ++ t
  | s :: ss => s ++ ", " ++ alternatives ss

/-- A number of characters. -/
def characters (n : Nat) : String := if n = 1 then "1 character" else toString n ++ " characters"

namespace Cause

/-- The word for the kind of fault. -/
def kind : Cause → String
  | missing => "missing"
  | notText => "string_type"
  | tooShort _ => "string_too_short"
  | tooLong _ => "string_too_long"
  | mismatch _ => "string_pattern_mismatch"
  | notInteger => "int_type"
  | fractional => "int_from_float"
  | unreadableInteger => "int_parsing"
  | oversizedInteger => "int_parsing_size"
  | below _ => "greater_than_equal"
  | above _ => "less_than_equal"
  | notBoolean => "bool_type"
  | unreadableBoolean => "bool_parsing"
  | notOneOf _ => "enum"
  | notMapping | notObject => "dict_type"
  | notList | notArray => "list_type"
  | notRecord _ => "model_type"
  | refused _ => "value_error"
  | unparsable => "json_invalid"

/-- The message for a fault. -/
def message : Cause → String
  | missing => "Field required"
  | notText => "Input should be a valid string"
  | tooShort n => "String should have at least " ++ characters n
  | tooLong n => "String should have at most " ++ characters n
  | mismatch pattern => "String should match pattern '" ++ pattern ++ "'"
  | notInteger => "Input should be a valid integer"
  | fractional => "Input should be a valid integer, got a number with a fractional part"
  | unreadableInteger => "Input should be a valid integer, unable to parse string as an integer"
  | oversizedInteger => "Unable to parse input string as an integer, exceeded maximum size"
  | below n => "Input should be greater than or equal to " ++ toString n
  | above n => "Input should be less than or equal to " ++ toString n
  | notBoolean => "Input should be a valid boolean"
  | unreadableBoolean => "Input should be a valid boolean, unable to interpret input"
  | notOneOf options => "Input should be " ++ alternatives (options.map fun s => "'" ++ s ++ "'")
  | notMapping => "Input should be a valid dictionary"
  | notList => "Input should be a valid list"
  | notRecord name => "Input should be a valid dictionary or instance of " ++ name
  | refused reason => "Value error, " ++ reason
  | unparsable => "Invalid JSON"
  | notObject => "Input should be an object"
  | notArray => "Input should be a valid array"

/-- The cause as it is worded for the text of a stored document. -/
def inStoredText : Cause → Cause
  | notMapping => notObject
  | notList => notArray
  | c => c

end Cause

namespace Fault

def message (f : Fault) : String := f.cause.message

/-- The fault seen from one step further out. -/
def under (s : Step) (f : Fault) : Fault := { f with place := s :: f.place }

/-- The steps to the place, joined by dots. -/
def placeText (f : Fault) : String :=
  ".".intercalate (f.place.map fun
    | .key name => name
    | .index i => toString i)

end Fault

end WorkflowRelease
