import Fenestration.Number.Notation

/-!
# Fixed decimal places

An amount is shown with a fixed number of places, rounded from its exact value to nearest, ties to
the even digit.  A negative amount keeps its sign even where it is shown as zero.
-/

namespace Fenestration

-- The quotient `num / den` in units of `10^-places`, to nearest, ties to even.
def roundToPlaces (places num den : Nat) : Nat :=
  roundHalfEven (num * tenPow places) den

-- A number of units of `10^-places`, written with the point in its place.
def placesText (places : Nat) (negative : Bool) (units : Nat) : List Char :=
  minusSign negative ++ digitsOf (units / tenPow places) ++
    '.' :: padZeros places (digitsOf (units % tenPow places))

/-- A double with a fixed number of decimal places. -/
def Binary64.toPlaces (places : Nat) : Binary64 → List Char
  | .finite negative mag _ => placesText places negative (roundToPlaces places mag unitsPerOne)
  | x => x.text

-- A tie goes to the even digit; a negative amount shown as zero keeps its sign.
example : (0.125 : Binary64).toPlaces 2 = "0.12".toList := by decide +kernel
example : (-0.001 : Binary64).toPlaces 2 = "-0.00".toList := by decide +kernel

def millimetreText (x : Binary64) : String :=
  String.ofList (x.toPlaces 1) ++ " mm"

def currencyText (x : Binary64) : String :=
  "$" ++ String.ofList (x.toPlaces 2)

end Fenestration
