import Fenestration.Number.FixedPoint
import Fenestration.Proofs.Number.Nearest
import Mathlib.Algebra.Order.Field.Basic
import Mathlib.Algebra.Order.Ring.Rat
import Mathlib.Data.Rat.Lemmas

/-!
# Exact numbers with fixed places

A double is shown with fixed places by rounding its exact value, so an exact number can be shown by
the same rule.  Main statement: a finite double is shown like the number that it stands for
(`toPlaces_finite`); only the sign of a negative zero is lost.
-/

namespace Fenestration

/-- An exact number with a fixed number of decimal places. -/
def exactPlaces (places : Nat) (x : Rat) : List Char :=
  placesText places (x < 0) (roundToPlaces places x.num.natAbs x.den)

/-- An exact length as it is shown. -/
def exactMillimetreText (x : Rat) : String :=
  String.ofList (exactPlaces 1 x) ++ " mm"

theorem roundToPlaces_eq_of_mul_eq (places : Nat) {a b c d : Nat} (hb : 0 < b) (hd : 0 < d)
    (h : a * d = c * b) : roundToPlaces places a b = roundToPlaces places c d := by
  have hscaled : a * tenPow places * d = c * tenPow places * b := by
    rw [Nat.mul_right_comm, h, Nat.mul_right_comm]
  unfold roundToPlaces
  rw [← roundHalfEven_mul_right _ b hd, ← roundHalfEven_mul_right _ d hb, hscaled,
    Nat.mul_comm b d]

namespace Binary64

-- The number of so many units.
def ofSignedUnits (negative : Bool) (mag : Nat) : Rat :=
  (signed negative mag : Rat) / (unitsPerOne : Rat)

theorem natAbs_signed (negative : Bool) (mag : Nat) : (signed negative mag).natAbs = mag := by
  cases negative with
  | true => exact Int.natAbs_neg _
  | false => rfl

theorem num_mul_unitsPerOne (negative : Bool) (mag : Nat) :
    (ofSignedUnits negative mag).num.natAbs * unitsPerOne =
      mag * (ofSignedUnits negative mag).den := by
  have hne : (unitsPerOne : Rat) ≠ 0 := Nat.cast_ne_zero.mpr (Nat.ne_of_gt unitsPerOne_pos)
  have hunits : ofSignedUnits negative mag * unitsPerOne = signed negative mag :=
    div_mul_cancel₀ _ hne
  have hcast : ((ofSignedUnits negative mag).num : Rat) * unitsPerOne =
      signed negative mag * (ofSignedUnits negative mag).den := by
    rw [← Rat.mul_den_eq_num, mul_right_comm, hunits]
  have hint : (ofSignedUnits negative mag).num * unitsPerOne =
      signed negative mag * (ofSignedUnits negative mag).den := by
    exact_mod_cast hcast
  have habs := congrArg Int.natAbs hint
  rwa [Int.natAbs_mul, Int.natAbs_mul, Int.natAbs_natCast, Int.natAbs_natCast,
    natAbs_signed] at habs

theorem ofSignedUnits_neg_iff {negative : Bool} {mag : Nat} (h : mag ≠ 0 ∨ negative = false) :
    ofSignedUnits negative mag < 0 ↔ negative = true := by
  have hpos : (0 : Rat) < unitsPerOne := Nat.cast_pos.mpr unitsPerOne_pos
  unfold ofSignedUnits
  rw [div_lt_iff₀ hpos, zero_mul, Int.cast_lt_zero]
  cases negative with
  | false => simp [signed]
  | true =>
    have hmag : mag ≠ 0 := h.resolve_right (by decide)
    simp only [signed, if_true, iff_true]
    omega

theorem toPlaces_finite {negative : Bool} {mag : Nat} (fits : Representable mag)
    (h : mag ≠ 0 ∨ negative = false) (places : Nat) :
    (finite negative mag fits).toPlaces places =
      exactPlaces places (ofSignedUnits negative mag) := by
  have hsign : decide (ofSignedUnits negative mag < 0) = negative := by
    rw [Bool.eq_iff_iff, decide_eq_true_eq, ofSignedUnits_neg_iff h]
  have hunits : roundToPlaces places mag unitsPerOne =
      roundToPlaces places (ofSignedUnits negative mag).num.natAbs
        (ofSignedUnits negative mag).den := by
    apply roundToPlaces_eq_of_mul_eq places unitsPerOne_pos (Rat.den_pos _)
    exact (num_mul_unitsPerOne negative mag).symm
  unfold exactPlaces
  rw [hsign, ← hunits]
  rfl

end Binary64

end Fenestration
