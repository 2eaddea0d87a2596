import Fenestration.Number.Decimal

/-!
# The shortest decimal of a double

`Binary64.shortest` finds, for a finite double, a decimal with the fewest digits that reads back
as that double, the nearest one of that length.  It tries the two neighbours of the value on the
grids of 1, 2, … 17 digits and reads each of them back, so that what it returns reads back by
construction.
-/

namespace Fenestration

namespace Shortest

-- A power of ten under which every positive double has at least 17 digits before the point.
def shift : Nat := 342

def wholeDigits (mag : Nat) : Nat :=
  (Nat.toDigits 10 (mag * tenPow shift / Binary64.unitsPerOne)).length

-- Of the two neighbours of `mag` units with `count` digits, the nearer one that satisfies
-- `readsBack`.
def onGrid (readsBack : Decimal → Bool) (negative : Bool) (mag whole count : Nat) :
    Option Decimal :=
  let num := mag * tenPow shift
  let den := Binary64.unitsPerOne * tenPow (whole - count)
  let decimal (coefficient : Nat) : Decimal :=
    ⟨negative, coefficient, (whole : Int) - count - shift⟩
  [roundHalfEven num den, num / den, num / den + 1].map decimal |>.find? readsBack

-- The value itself, all digits written: `2^-1074` is `5^1074 · 10^-1074`.
def exact (negative : Bool) (mag : Nat) : Decimal :=
  ⟨negative, mag * Nat.pow 5 1074, -1074⟩

-- The first of the grids of 1 to 17 digits that holds a decimal satisfying `readsBack`.
def search (readsBack : Decimal → Bool) (negative : Bool) (mag : Nat) : Option Decimal :=
  let whole := wholeDigits mag
  (List.range 17).findSome? fun i => onGrid readsBack negative mag whole (i + 1)

end Shortest

/-- A shortest decimal that reads back as the finite double `± mag`, the nearest of its length. -/
def Binary64.shortest (negative : Bool) (mag : Nat) (fits : Representable mag) : Decimal :=
  if mag = 0 then ⟨negative, 0, 0⟩
  else
    (Shortest.search (fun d => d.nearest = .finite negative mag fits) negative mag).getD
      (Shortest.exact negative mag)

end Fenestration
