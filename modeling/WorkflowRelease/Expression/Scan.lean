import WorkflowRelease.Text.Blank
import WorkflowRelease.Text.Segments

/-!
# Template expressions

A template expression is written `{{ scope.path | fallback }}` inside a text, with any blanks inside
the braces (`EXPRESSION_PATTERN`). Scanning goes from left to right: at a pair of opening braces the
body is all up to the next closing brace, which has to be doubled; otherwise the scan goes on one
character later, so what is malformed is plain text.
-/

namespace WorkflowRelease

/-- A reference to a value, found in a text (`ExpressionRef`). -/
structure Expression where
  scope : String
  path : String
  fallback : Option String
deriving DecidableEq, Repr

namespace Expression

open Text

/-- The body of an expression and the text behind it, given the text behind the opening braces. -/
def body? (cs : List Char) : Option (List Char × List Char) :=
  match cs.takeWhile (· ≠ '\x7d'), cs.dropWhile (· ≠ '\x7d') with
  | [], _ => none
  | c :: body, '\x7d' :: '\x7d' :: rest => some (c :: body, rest)
  | _, _ => none

theorem length_of_body? {cs body rest : List Char} (h : body? cs = some (body, rest)) :
    rest.length < cs.length := by
  have hd := (List.dropWhile_suffix (· ≠ '\x7d') (l := cs)).length_le
  unfold body? at h
  split at h
  · cases h
  · rename_i hdrop
    rw [hdrop] at hd
    cases h
    simp at hd
    omega
  · cases h

/-- The bodies of the expressions in a text, from left to right. -/
def bodies : List Char → List (List Char)
  | [] => []
  | '\x7b' :: '\x7b' :: cs =>
    match _h : body? cs with
    | some (body, rest) => body :: bodies rest
    | none => bodies ('\x7b' :: cs)
  | _ :: cs => bodies cs
termination_by cs => cs.length
decreasing_by
  · have := length_of_body? _h
    simp
    omega
  · simp
  · simp

/-- A text that is nothing when it is empty. -/
def nonempty? (cs : List Char) : Option String :=
  if cs = [] then none else some (String.ofList cs)

/-- Reads a body: scope and path are parted by the first dot, the fallback follows the first bar,
and nothing is kept of the blanks around the three. -/
def ofBody? (body : List Char) : Option Expression :=
  let (written, fallback) := breakAt '|' body
  match breakAt '.' (trim written) with
  | (_, none) => none
  | (scope, some path) =>
    if trim scope = [] ∨ trim path = [] then none
    else some
      { scope := String.ofList (trim scope)
        path := String.ofList (trim path)
        fallback := fallback.bind fun f => nonempty? (trim f) }

/-- The references in a text, from left to right (`extract_expression_refs`). -/
def scan (s : String) : List Expression := (bodies s.toList).filterMap ofBody?

/-- The first segment of the path. -/
def head (e : Expression) : String :=
  match split '.' e.path.toList with
  | [] => ""
  | s :: _ => String.ofList (trim s)

/-- The scope of parameter references. -/
def paramsScope : String := "params"

/-- The scope of references to the run itself. -/
def metaScope : String := "meta"

end Expression

end WorkflowRelease
