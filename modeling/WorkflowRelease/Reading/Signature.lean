import WorkflowRelease.Json.Basic
import WorkflowRelease.Text.Quoted

/-!
# Signatures

The names that values are given under to something that is made of them: those that are required,
and others. A name that is not known or taken already is refused before one that is missed.
-/

namespace WorkflowRelease

structure Signature where
  /-- What is made, as it is called in messages. -/
  title : String
  required : List String := []
  optional : List String := []
  /-- Names that something else is given under by position. -/
  taken : List String := []
  /-- What is required could also be given by position. -/
  isPositional : Bool := true
deriving DecidableEq, Repr

namespace Signature

/-- What is wrong with the names of some values. -/
inductive Fault where
  | unknown (name : String)
  | twice (name : String)
  | missed (names : List String)
deriving DecidableEq, Repr

/-- The required names that no value is given under. -/
def missing (s : Signature) (o : Fields) : List String := s.required.filter (· ∉ o.keys)

/-- A value may be given under the name. -/
def isFree (s : Signature) (name : String) : Bool :=
  name ∈ s.required ++ s.optional && name ∉ s.taken

/-- The first name that is not known or not free, or else all names that are missed. -/
def fault? (s : Signature) (o : Fields) : Option Fault :=
  match o.keys.find? (!s.isFree ·) with
  | some name => some (if name ∈ s.taken then .twice name else .unknown name)
  | none => if s.missing o = [] then none else some (.missed (s.missing o))

/-- Names in a row: the last of several follows an `and`, after a comma if there are more than
two. -/
def row : List String → String
  | [] => ""
  | [a] => Text.quoted a
  | [a, b] => Text.quoted a ++ " and " ++ Text.quoted b
  | names =>
    ", ".intercalate (names.dropLast.map Text.quoted) ++ ", and " ++
      (names.getLast?.map Text.quoted).getD ""

/-- The message for a fault. -/
def message (s : Signature) : Fault → String
  | .unknown name => s.title ++ " got an unexpected keyword argument " ++ Text.quoted name
  | .twice name => s.title ++ " got multiple values for argument " ++ Text.quoted name
  | .missed names =>
    s.title ++ " missing " ++ toString names.length ++ " required " ++
      (if s.isPositional then "positional" else "keyword-only") ++
      (if names.length = 1 then " argument: " else " arguments: ") ++ row names

/-- The values, or the message for what is wrong with their names. -/
def check (s : Signature) (o : Fields) : Except String Fields :=
  match s.fault? o with
  | some fault => .error (s.message fault)
  | none => .ok o

end Signature

end WorkflowRelease
