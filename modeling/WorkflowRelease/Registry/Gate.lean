import WorkflowRelease.Json.Literal

/-!
# The version gate

An artifact counts as published from some version number on (`min_published_version`). The gate is
set by a value of any kind: numbers of every kind are compared by value, and what is no number
cannot be compared with.
-/

namespace WorkflowRelease

inductive Gate where
  | least (version : Int)
  /-- The value that is set is no number, but of another kind. -/
  | unordered (kind : String)
deriving DecidableEq, Repr

namespace Gate

/-- The gate that a value sets. A fraction is rounded up, and a boolean counts as zero or one. -/
def ofJson : Json → Gate
  | .int n => least n
  | .bool b => least (if b then 1 else 0)
  | .float x => least x.ceil
  | v => unordered v.kind

/-- The version number is not below the gate. -/
def admits : Gate → Int → Bool
  | least n, version => n ≤ version
  | unordered _, _ => false

/-- The kind of a value that is no number. -/
def unordered? : Gate → Option String
  | least _ => none
  | unordered kind => some kind

end Gate

end WorkflowRelease
