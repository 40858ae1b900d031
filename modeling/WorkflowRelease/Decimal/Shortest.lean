import WorkflowRelease.Decimal.Binary64
import WorkflowRelease.Decimal.Layout

/-!
# Decimal digits of a double

Two ways to choose the digits of a positive double: the fewest that read back as the same double,
nearest to it among those, and a fixed number of digits. All comparisons are between natural
numbers. A double is written in its shortest digits, positionally below 10¹⁶; in a short report it
has six digits and is positional below 10⁶.
-/

namespace WorkflowRelease.Binary64

/-- The decimal exponent of the first digit of `units` units, which are at least one. -/
def leadingExponent (units : Nat) : Int :=
  ((Decimal.natDigits (units * Nat.pow 10 340 / unit)).length : Int) - 341

/-- Numerator and denominator of `units` units counted in steps of `10 ^ step`. -/
def inSteps (units : Nat) (step : Int) : Nat × Nat :=
  match step with
  | .ofNat s => (units, unit * Nat.pow 10 s)
  | .negSucc s => (units * Nat.pow 10 (s + 1), unit)

/-- `c` steps of `10 ^ step` round to the double with this pattern: they lie between the middles to
its two neighbours, ends included iff the pattern is even. -/
def readsBack (p : Nat) (step : Int) (c : Nat) : Bool :=
  let lower := unitsOfPattern (p - 1) + unitsOfPattern p
  let upper := unitsOfPattern p + unitsOfPattern (p + 1)
  let (l, d) := inSteps lower step
  let (u, _) := inSteps upper step
  if p % 2 = 0 then decide (l ≤ 2 * d * c ∧ 2 * d * c ≤ u)
  else decide (l < 2 * d * c ∧ 2 * d * c < u)

/-- The best decimal with `n` digits that reads back, if there is one. -/
def candidate (p : Nat) (n : Nat) : Option Decimal :=
  let units := unitsOfPattern p
  let step := leadingExponent units - n + 1
  let (num, den) := inSteps units step
  let low := num / den
  let near := nearestEven num den
  let far := if near = low then low + 1 else low
  if readsBack p step near then some (.ofCoefficient near step)
  else if readsBack p step far then some (.ofCoefficient far step)
  else none

/-- The decimal with `n` digits nearest to a pattern. -/
def roundedTo (p : Nat) (n : Nat) : Decimal :=
  let units := unitsOfPattern p
  let step := leadingExponent units - n + 1
  let (num, den) := inSteps units step
  .ofCoefficient (nearestEven num den) step

/-- The fewest digits that read back; seventeen always do. -/
def shortest (p : Nat) : Decimal :=
  ((List.range 17).findSome? fun i => candidate p (i + 1)).getD (roundedTo p 17)

/-- The sign, and the text of the magnitude. -/
def signed (x : Binary64) (zeroText : String) (magnitude : Nat → Decimal) (style : Layout) :
    String :=
  (if x.isNegative then "-" else "") ++
    if !x.isFinite then "inf"
    else if x.pattern = 0 then zeroText
    else (magnitude x.pattern).text style

/-- Shortest form: positional below 10¹⁶, and a whole number keeps `.0`. -/
def text (x : Binary64) : String := x.signed "0.0" shortest ⟨16, true⟩

/-- Six digits, positional below 10⁶, without zeros at the end. -/
def brief (x : Binary64) : String := x.signed "0" (roundedTo · 6) ⟨6, false⟩

end WorkflowRelease.Binary64
