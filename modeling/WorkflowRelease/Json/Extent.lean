import WorkflowRelease.Json.Basic

/-!
# Limits of values

How deep values may be nested, and how long numbers may be, when they are written out or kept. A
value that is written out holds at most `writtenLevels` values inside one another. What is kept as
text is read back only if it holds at most `storedNesting` lists and objects that are not empty
inside one another, and no number of more than `numeralLength` characters.
-/

namespace WorkflowRelease

namespace Json

/-- The most values inside one another in a value that is written out. -/
def writtenLevels : Nat := 255

/-- The most lists and objects inside one another in a text that is read back. -/
def storedNesting : Nat := 200

/-- The most characters of a number in a text that is read back. -/
def numeralLength : Nat := 4300

mutual

/-- How many values stand inside one another, the value itself included. -/
def levels : Json → Nat
  | .list items => levelsOfList items + 1
  | .object fields => levelsOfFields fields + 1
  | _ => 1

def levelsOfList : List Json → Nat
  | [] => 0
  | v :: vs => max (levels v) (levelsOfList vs)

def levelsOfFields : List (String × Json) → Nat
  | [] => 0
  | (_, v) :: es => max (levels v) (levelsOfFields es)

end

mutual

/-- How many lists and objects that are not empty stand inside one another. -/
def nesting : Json → Nat
  | .list items => if items.isEmpty then 0 else nestingOfList items + 1
  | .object fields => if fields.isEmpty then 0 else nestingOfFields fields + 1
  | _ => 0

def nestingOfList : List Json → Nat
  | [] => 0
  | v :: vs => max (nesting v) (nestingOfList vs)

def nestingOfFields : List (String × Json) → Nat
  | [] => 0
  | (_, v) :: es => max (nesting v) (nestingOfFields es)

end

/-- The integer has no more characters than a text may have that is read back. -/
def fits (n : Int) : Bool :=
  -(Nat.pow 10 (numeralLength - 1) : Int) < n && n < Nat.pow 10 numeralLength

mutual

/-- Every integer fits. -/
def numbersFit : Json → Bool
  | .int n => fits n
  | .list items => numbersFitInList items
  | .object fields => numbersFitInFields fields
  | _ => true

def numbersFitInList : List Json → Bool
  | [] => true
  | v :: vs => numbersFit v && numbersFitInList vs

def numbersFitInFields : List (String × Json) → Bool
  | [] => true
  | (_, v) :: es => numbersFit v && numbersFitInFields es

end

/-- The value can be written out. -/
def isWritable (v : Json) : Bool := v.levels ≤ writtenLevels

/-- What is said about a value that cannot be written out. -/
def tooDeep : String := "Circular reference detected (depth exceeded)"

/-- The text of the value can be read back. -/
def isReadable (v : Json) : Bool := v.nesting ≤ storedNesting && v.numbersFit

end Json

/-- Every value of the object can be written out. -/
def Fields.areWritable (o : Fields) : Bool := o.all (·.2.isWritable)

end WorkflowRelease
