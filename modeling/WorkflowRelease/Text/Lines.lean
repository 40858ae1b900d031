/-!
# Lines of a text

A text cut at its line breaks, of which there are ten; a carriage return and a line feed together
are one. A break ends a line, so nothing follows the last one.
-/

namespace WorkflowRelease.Text

def isBreak (c : Char) : Bool :=
  c ∈ ['\n', '\x0b', '\x0c', '\r', '\x1c', '\x1d', '\x1e', '\x85', '\u2028', '\u2029']

/-- The lines of a text without their breaks. -/
def lines : List Char → List (List Char)
  | [] => []
  | '\r' :: '\n' :: cs => [] :: lines cs
  | c :: cs =>
    if isBreak c then [] :: lines cs
    else
      match lines cs with
      | [] => [[c]]
      | l :: ls => (c :: l) :: ls

/-- The lines of a text as texts. -/
def linesOf (s : String) : List String := (lines s.toList).map String.ofList

end WorkflowRelease.Text
