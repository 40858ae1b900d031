import WorkflowRelease.Text.Segments

/-!
# Locations

A path in its normal form: no empty segment and no single dot, parted by single slashes. A path from
the root keeps its slash, and one that starts with exactly two keeps both.
-/

namespace WorkflowRelease.Location

open Text

/-- The slashes that a path from the root starts with. -/
def root : List Char → List Char
  | '/' :: '/' :: '/' :: _ => ['/']
  | '/' :: '/' :: _ => ['/', '/']
  | '/' :: _ => ['/']
  | _ => []

/-- The segment leads somewhere. -/
def isProper (segment : List Char) : Bool := segment ≠ [] && segment ≠ ['.']

/-- The segments that lead somewhere, in order. -/
def segments (cs : List Char) : List (List Char) := (split '/' cs).filter isProper

/-- The path in its normal form; one that leads nowhere is a dot. -/
def normal (path : String) : String :=
  match root path.toList ++ joinWith '/' (segments path.toList) with
  | [] => "."
  | cs => String.ofList cs

end WorkflowRelease.Location
