import WorkflowRelease.Json.Basic

/-!
# Leaves of a value

Texts anywhere in a value (`iter_string_leaves`), and the leaves of nested objects under dotted
paths (`flatten_leaf_entries`). Both walks are breadth first: a queue of values still to look at
loses its head and gains the head's children, so the total size of the queue falls at every step.
-/

namespace WorkflowRelease.Json

mutual

/-- The number of values in a value, itself included. -/
def size : Json → Nat
  | .list items => sizeList items + 1
  | .object fields => sizeFields fields + 1
  | _ => 1

def sizeList : List Json → Nat
  | [] => 0
  | v :: vs => size v + sizeList vs

def sizeFields : List (String × Json) → Nat
  | [] => 0
  | (_, v) :: es => size v + sizeFields es

end

@[simp] theorem sizeList_append (xs ys : List Json) :
    sizeList (xs ++ ys) = sizeList xs + sizeList ys := by
  induction xs with
  | nil => simp [sizeList]
  | cons x xs ih => simp [sizeList, ih, Nat.add_assoc]

theorem sizeList_values (es : Fields) : sizeList (Fields.values es) = sizeFields es := by
  induction es with
  | nil => rfl
  | cons e es ih => simpa [Fields.values, sizeList, sizeFields] using ih

/-! ## Texts -/

/-- The texts of the values in the queue, breadth first. Keys are not texts of a value. -/
def textLeaves : List Json → List String
  | [] => []
  | .text s :: rest => s :: textLeaves rest
  | .list items :: rest => textLeaves (rest ++ items)
  | .object fields :: rest => textLeaves (rest ++ Fields.values fields)
  | .null :: rest | .bool _ :: rest | .int _ :: rest | .float _ :: rest => textLeaves rest
termination_by pending => sizeList pending
decreasing_by
  all_goals simp only [sizeList, size, sizeList_append, sizeList_values]; omega

/-! ## Entries under dotted paths -/

/-- The path of an entry below `above`; an empty path adds nothing in front. -/
def pathBelow (above key : String) : String := if above = "" then key else above ++ "." ++ key

/-- Entries of an object that are not objects themselves, under their paths. -/
def entriesHere (above : String) (o : Fields) : List (String × Json) :=
  o.filterMap fun e => match e.2 with
    | .object _ => none
    | v => some (pathBelow above e.1, v)

/-- Entries of an object that are objects, under their paths. -/
def objectsHere (above : String) (o : Fields) : List (String × Fields) :=
  o.filterMap fun e => match e.2 with
    | .object fields => some (pathBelow above e.1, fields)
    | _ => none

/-- The weight of a queue of objects. -/
def queueSize : List (String × Fields) → Nat
  | [] => 0
  | e :: es => sizeFields e.2 + 1 + queueSize es

theorem queueSize_append (xs ys : List (String × Fields)) :
    queueSize (xs ++ ys) = queueSize xs + queueSize ys := by
  induction xs with
  | nil => simp [queueSize]
  | cons x xs ih => simp [queueSize, ih, Nat.add_assoc]

theorem queueSize_objectsHere (above : String) (o : Fields) :
    queueSize (objectsHere above o) ≤ sizeFields o := by
  induction o with
  | nil => simp [objectsHere, queueSize]
  | cons e o ih =>
    obtain ⟨k, v⟩ := e
    cases v with
    | object fields =>
      simp only [objectsHere, List.filterMap_cons, queueSize, sizeFields, size] at ih ⊢
      omega
    | _ =>
      simp only [objectsHere, List.filterMap_cons, sizeFields, size] at ih ⊢
      omega

/-- The leaves of the objects in the queue, breadth first. Lists are leaves. -/
def leafEntries : List (String × Fields) → List (String × Json)
  | [] => []
  | (above, o) :: rest => entriesHere above o ++ leafEntries (rest ++ objectsHere above o)
termination_by pending => queueSize pending
decreasing_by
  simp only [queueSize, queueSize_append]
  have := queueSize_objectsHere above o
  omega

/-- The leaves of a value under dotted paths; only an object has any. -/
def flatten : Json → List (String × Json)
  | .object fields => leafEntries [("", fields)]
  | _ => []

end WorkflowRelease.Json
