import Fenestration.Number.Binary64

/-!
# Decimals

A decimal is a sign, a coefficient and a power of ten; it is what number text denotes.
`Decimal.nearest` rounds it to a double.
-/

namespace Fenestration

/-- The number `± coefficient · 10^exponent`. -/
structure Decimal where
  negative : Bool
  coefficient : Nat
  exponent : Int
  deriving DecidableEq

namespace Decimal

-- The exact size of the decimal as a numerator over a positive denominator.
def ratio (d : Decimal) : Nat × Nat :=
  if 0 ≤ d.exponent then (d.coefficient * tenPow d.exponent.toNat, 1)
  else (d.coefficient, tenPow (-d.exponent).toNat)

/-- The double nearest to the decimal, ties to even, keeping the sign of zero.

Every double lies below `10^309` and every positive one above `10^-324`, so a power of ten far
outside these bounds is decided without computing it. -/
def nearest (d : Decimal) : Binary64 :=
  if d.coefficient = 0 then .zero d.negative
  else if 400 < d.exponent then .infinite d.negative
  else if d.exponent < -((d.coefficient.log2 : Int) + 400) then .zero d.negative
  else .ofRatio d.negative d.ratio.1 d.ratio.2

end Decimal

instance : OfScientific Binary64 where
  ofScientific coefficient negativeExponent exponent :=
    Decimal.nearest
      ⟨false, coefficient, if negativeExponent then -(exponent : Int) else exponent⟩

end Fenestration
