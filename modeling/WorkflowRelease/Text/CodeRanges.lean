/-!
# Ranges of code points

A character class is written as a list of closed ranges of code points.
-/

namespace WorkflowRelease

/-- Closed ranges of code points. -/
abbrev CodeRanges := List (Nat × Nat)

/-- Some range covers the character. -/
def CodeRanges.has (ranges : CodeRanges) (c : Char) : Bool :=
  ranges.any fun r => r.1 ≤ c.toNat && c.toNat ≤ r.2

@[simp] theorem CodeRanges.has_nil (c : Char) : CodeRanges.has [] c = false := rfl

end WorkflowRelease
