/-!
# Layout of decimals

A positive decimal number `d₁.d₂d₃… · 10ᵉ` written out: positionally while its exponent is in a
range, with an exponent of at least two digits beyond it.
-/

namespace WorkflowRelease

/-- The decimal `d₁.d₂d₃… · 10 ^ exponent`. -/
structure Decimal where
  digits : List Char
  exponent : Int
deriving DecidableEq, Repr

/-- How a decimal is laid out. -/
structure Layout where
  /-- Exponents from -4 up to here, exclusive, are written positionally. -/
  positionalBelow : Int
  /-- A whole number written positionally ends in `.0`. -/
  markWhole : Bool

namespace Decimal

/-- Digits of a natural number. -/
def natDigits (n : Nat) : List Char := (toString n).toList

/-- The exponent with its sign and at least two digits. -/
def exponentText (e : Int) : List Char :=
  let ds := natDigits e.natAbs
  (if e < 0 then '-' else '+') :: (List.replicate (2 - ds.length) '0' ++ ds)

/-- Digits with a point after the first `n`, zeros filled in where digits are wanting. -/
def pointAfter (n : Nat) (ds : List Char) (markWhole : Bool) : List Char :=
  if ds.length ≤ n then
    ds ++ List.replicate (n - ds.length) '0' ++ (if markWhole then ['.', '0'] else [])
  else ds.take n ++ '.' :: ds.drop n

/-- The decimal written out. -/
def text (style : Layout) (d : Decimal) : String :=
  String.ofList <|
    if -4 ≤ d.exponent ∧ d.exponent < style.positionalBelow then
      match d.exponent with
      | .ofNat e => pointAfter (e + 1) d.digits style.markWhole
      | .negSucc e => '0' :: '.' :: (List.replicate e '0' ++ d.digits)
    else
      pointAfter 1 d.digits false ++ 'e' :: exponentText d.exponent

/-- The decimal `coefficient · 10 ^ step` in normal form, without zeros at the end. -/
def ofCoefficient (coefficient : Nat) (step : Int) : Decimal :=
  let ds := natDigits coefficient
  let kept := (ds.reverse.dropWhile (· = '0')).reverse
  ⟨if kept = [] then ['0'] else kept, step + (ds.length : Int) - 1⟩

end Decimal

end WorkflowRelease
