/-!
# Double precision numbers

A finite double is a whole number of units of 2⁻¹⁰⁷⁴, so its value is an integer and every
operation is integer arithmetic followed by one rounding. Written as patterns without their sign,
doubles are ordered as their values, and the pattern of infinity continues the row. Main statement:
`lt_ceil_iff`, an integer is below a double iff it is below the double rounded up.
-/

namespace WorkflowRelease

/-- A double, kept as its bit pattern. -/
structure Binary64 where
  bits : UInt64
deriving DecidableEq, Repr, Inhabited

/-- The whole number nearest to a quotient; a half goes to the even neighbour. -/
def nearestEven (num den : Nat) : Nat :=
  let q := num / den
  let r := num % den
  if 2 * r < den then q
  else if den < 2 * r then q + 1
  else if q % 2 = 0 then q
  else q + 1

theorem nearestEven_eq_or (num den : Nat) :
    nearestEven num den = num / den ∨ nearestEven num den = num / den + 1 := by
  simp only [nearestEven]
  grind

namespace Binary64

/-- The number of patterns that share an exponent. -/
def binade : Nat := 0x10000000000000

/-- The pattern of infinity. -/
def infinityPattern : Nat := 2047 * binade

/-- The pattern whose only bit is the sign. -/
def signBit : Nat := 0x8000000000000000

/-- The bit pattern without its sign. -/
def pattern (x : Binary64) : Nat := x.bits.toNat % signBit

/-- The sign bit is set. -/
def isNegative (x : Binary64) : Bool := decide (signBit ≤ x.bits.toNat)

def isFinite (x : Binary64) : Bool := decide (x.pattern < infinityPattern)

/-- The value of a pattern, in units of 2⁻¹⁰⁷⁴. -/
def unitsOfPattern (p : Nat) : Nat :=
  if p < binade then p else (binade + p % binade) * Nat.pow 2 (p / binade - 1)

/-- The value in units of 2⁻¹⁰⁷⁴. -/
def units (x : Binary64) : Int :=
  if x.isNegative then -(unitsOfPattern x.pattern : Int) else unitsOfPattern x.pattern

/-- The number of units in one. -/
def unit : Nat := Nat.pow 2 1074

/-- The pattern nearest to `num / den` units. What rounds to 2¹⁰²⁴ or more is infinite. -/
def patternOf (num den : Nat) : Nat :=
  let k := (num / den).log2 - 52
  min (k * binade + nearestEven num (den * Nat.pow 2 k)) infinityPattern

/-- The double with a sign and a pattern. -/
def ofPattern (negative : Bool) (p : Nat) : Binary64 :=
  ⟨UInt64.ofNat (if negative then signBit + p else p)⟩

/-- The double nearest to a whole number of units. -/
def ofUnits (n : Int) : Binary64 := ofPattern (decide (n < 0)) (patternOf n.natAbs 1)

/-- The double nearest to an integer. -/
def ofInt (n : Int) : Binary64 := ofUnits (n * unit)

/-- The double nearest to `digits · 10 ^ exponent`. -/
def ofDecimal (negative : Bool) (digits : Nat) (exponent : Int) : Binary64 :=
  match exponent with
  | .ofNat e => ofPattern negative (patternOf (digits * Nat.pow 10 e * unit) 1)
  | .negSucc e => ofPattern negative (patternOf (digits * unit) (Nat.pow 10 (e + 1)))

/-- The double has no fraction: its value is a whole multiple of one. -/
def isWhole (x : Binary64) : Bool := x.isFinite && decide (x.pattern = 0 ∨ x.units % unit = 0)

/-- The integer part of the value, toward zero. -/
def toInt (x : Binary64) : Int := x.units.tdiv unit

/-- The least integer that is not below the value. -/
def ceil (x : Binary64) : Int := -(-x.units / unit)

def neg (x : Binary64) : Binary64 := ofPattern (!x.isNegative) x.pattern

/-- The exact sum, rounded. An infinite summand is the sum. -/
def add (x y : Binary64) : Binary64 :=
  if !x.isFinite then x else if !y.isFinite then y else ofUnits (x.units + y.units)

/-- The exact difference, rounded. -/
def sub (x y : Binary64) : Binary64 := x.add y.neg

/-- Comparison by value; infinity is above every finite number. -/
def lt (x y : Binary64) : Bool := decide (x.units < y.units)

/-- Comparison by value; infinity is above every finite number. -/
def le (x y : Binary64) : Bool := decide (x.units ≤ y.units)

def abs (x : Binary64) : Binary64 := ofPattern false x.pattern

def zero : Binary64 := ⟨0⟩

theorem unit_pos : 0 < unit := by decide +kernel

theorem lt_ceil_iff (n : Int) (x : Binary64) : n < x.ceil ↔ n * unit < x.units := by
  have hu : (0 : Int) < unit := Int.natCast_pos.2 unit_pos
  have h := Int.ediv_lt_iff_lt_mul (a := -x.units) (b := -n) hu
  rw [Int.neg_mul] at h
  unfold ceil
  constructor
  · intro hn
    have := h.1 (by omega)
    omega
  · intro hn
    have := h.2 (by omega)
    omega

end Binary64

end WorkflowRelease
