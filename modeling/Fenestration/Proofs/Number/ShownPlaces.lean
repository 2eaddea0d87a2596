import Fenestration.Proofs.Number.ReadBack
import Fenestration.Proofs.Number.TiesToEven

/-!
# Fixed places read back

An exact number shown with fixed places is the text of a decimal, so what is shown can be compared
with what was to be shown.  Main statements: the text reads as the nearest number of units of the
last place (`read?_exactPlaces`), and that is within half a unit of the number shown
(`abs_sub_nearestUnits_le`).
-/

namespace Fenestration

/-- The exact number that a decimal stands for. -/
def Decimal.value (d : Decimal) : Rat :=
  (Binary64.signed d.negative d.coefficient : Rat) * 10 ^ d.exponent

/-- The units of `10^-places` that a number is shown as. -/
def nearestUnits (places : Nat) (x : Rat) : Int :=
  Binary64.signed (x < 0) (roundToPlaces places x.num.natAbs x.den)

/-! ## Nearness -/

theorem abs_sub_roundToPlaces_le (places num : Nat) {den : Nat} (hden : 0 < den) :
    |(num : Rat) / den * 10 ^ places - roundToPlaces places num den| ≤ 1 / 2 := by
  have hround := (isNearestEven_roundToPlaces places num hden).abs_sub_le
  rwa [Int.cast_natCast] at hround

/-- A number is shown within half a unit of the last place. -/
theorem abs_sub_nearestUnits_le (places : Nat) (x : Rat) :
    |x * 10 ^ places - nearestUnits places x| ≤ 1 / 2 := by
  have hround := abs_sub_roundToPlaces_le places x.num.natAbs (Rat.den_pos x)
  have hsize : ((x.num.natAbs : Nat) : Rat) / x.den = |x| := by
    rw [Rat.abs_def, Rat.divInt_eq_div, Int.cast_natCast, Int.cast_natCast]
  rw [hsize] at hround
  unfold nearestUnits Binary64.signed
  by_cases hneg : x < 0
  · rw [abs_of_neg hneg, ← abs_neg] at hround
    rw [if_pos (decide_eq_true hneg), Int.cast_neg, Int.cast_natCast]
    rwa [neg_sub, neg_mul, sub_neg_eq_add, add_comm, ← sub_neg_eq_add] at hround
  · rw [abs_of_nonneg (not_lt.mp hneg)] at hround
    rwa [if_neg (by simpa using hneg), Int.cast_natCast]

/-! ## The text -/

theorem length_padZeros_digitsOf {places n : Nat} (hplaces : 0 < places) (h : n < tenPow places) :
    (padZeros places (digitsOf n)).length = places := by
  have hlength : (digitsOf n).length ≤ places :=
    (Nat.length_toDigits_le_iff (by decide) hplaces).mpr h
  rw [padZeros, List.length_append, List.length_replicate]
  omega

theorem isDigits_padZeros_digitsOf (places n : Nat) : IsDigits (padZeros places (digitsOf n)) :=
  (isDigits_replicate_zero _).append (isDigits_digitsOf _)

theorem read?_placesText {places : Nat} (hplaces : 0 < places) (negative : Bool) (units : Nat) :
    Decimal.read? (placesText places negative units) = some ⟨negative, units, -places⟩ := by
  have hlt : units % tenPow places < tenPow places := Nat.mod_lt _ (tenPow_pos places)
  have hlength := length_padZeros_digitsOf hplaces hlt
  have hvalue : Decimal.readDigits (digitsOf (units / tenPow places) ++
      padZeros places (digitsOf (units % tenPow places))) = units := by
    rw [Decimal.readDigits_append, hlength, Decimal.readDigits_digitsOf, padZeros,
      Decimal.readDigits_zeros_append, Decimal.readDigits_digitsOf]
    exact Nat.div_add_mod' units (tenPow places)
  have hwhole : digitsOf (units / tenPow places) ≠ [] := Nat.toDigits_ne_nil
  rw [placesText, List.append_assoc,
    Decimal.read?_point negative hwhole (isDigits_digitsOf _)
      (isDigits_padZeros_digitsOf _ _), hvalue, hlength]

/-- What is shown reads as the nearest number of units of the last place. -/
theorem read?_exactPlaces {places : Nat} (hplaces : 0 < places) (x : Rat) :
    (Decimal.read? (exactPlaces places x)).map Decimal.value =
      some ((nearestUnits places x : Rat) / 10 ^ places) := by
  rw [exactPlaces, read?_placesText hplaces, Option.map_some, Decimal.value, zpow_neg,
    zpow_natCast, div_eq_mul_inv]
  rfl

end Fenestration
