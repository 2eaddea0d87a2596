import Fenestration.Proofs.Number.ShownPlaces
import Fenestration.Proofs.Quote.NothingQuoted
import Mathlib.Tactic.Ring

/-!
# Printed amounts

Every amount of a price section is rounded to cents on its own, so the printed lines need not add
up to the printed sums.  Each line is off by half a cent at most, and what the lines differ by is a
whole number of cents.  Exact amounts are printed by the rule for doubles (`currencyText_finite`).
Main statement: `printed_amounts_reconcile`, how far the printed base and the printed total can be
from what the lines above them add up to.
-/

namespace Fenestration

/-- An exact amount as it is printed. -/
def exactCurrencyText (x : Rat) : String :=
  "$" ++ String.ofList (exactPlaces 2 x)

/-- An exact amount, rounded to cents. -/
def printed (x : Rat) : Rat :=
  (nearestUnits 2 x : Rat) / 100

/-- The amount that a printed text stands for. -/
def printedAmount? (text : String) : Option Rat :=
  (Decimal.read? (text.toList.drop 1)).map Decimal.value

-- A double is printed like the number that it stands for, but for the sign of a negative zero.
theorem currencyText_finite {negative : Bool} {mag : Nat} (fits : Representable mag)
    (h : mag ≠ 0 ∨ negative = false) :
    currencyText (.finite negative mag fits) =
      exactCurrencyText (Binary64.ofSignedUnits negative mag) := by
  rw [currencyText, Binary64.toPlaces_finite fits h 2]
  rfl

theorem printedAmount?_exactCurrencyText (x : Rat) :
    printedAmount? (exactCurrencyText x) = some (printed x) := by
  have htext : (exactCurrencyText x).toList.drop 1 = exactPlaces 2 x := by
    simp [exactCurrencyText]
  rw [printedAmount?, htext, read?_exactPlaces (by decide), printed]
  norm_num

/-! ## Sums of rounded amounts -/

-- Each term adds half a unit to what the units can be off by.
theorem abs_sum_sub_sum_nearestUnits_le (places : Nat) (amounts : List Rat) :
    |amounts.sum * 10 ^ places - (amounts.map (nearestUnits places)).sum| ≤
      (amounts.length : Rat) / 2 := by
  induction amounts with
  | nil => simp
  | cons x rest ih =>
    have hx := abs_sub_nearestUnits_le places x
    have hsplit : (x :: rest).sum * 10 ^ places -
          (((x :: rest).map (nearestUnits places)).sum : Int) =
        (x * 10 ^ places - nearestUnits places x) +
          (rest.sum * 10 ^ places - (rest.map (nearestUnits places)).sum) := by
      rw [List.sum_cons, List.map_cons, List.sum_cons, Int.cast_add]
      ring
    rw [hsplit, List.length_cons, Nat.cast_succ]
    have htriangle := abs_add_le (x * 10 ^ places - nearestUnits places x)
      (rest.sum * 10 ^ places - (rest.map (nearestUnits places)).sum)
    linarith

/-- A rounded sum and the sum of the rounded terms are whole numbers, so that what they differ by is
at most half the number of roundings, rounded down. -/
theorem two_mul_abs_nearestUnits_sum_le (places : Nat) (amounts : List Rat) :
    2 * |nearestUnits places amounts.sum - (amounts.map (nearestUnits places)).sum| ≤
      amounts.length + 1 := by
  have hterms := abs_sum_sub_sum_nearestUnits_le places amounts
  have hsum := abs_sub_nearestUnits_le places amounts.sum
  rw [abs_sub_comm] at hsum
  have htriangle := abs_sub_le (nearestUnits places amounts.sum : Rat)
    (amounts.sum * 10 ^ places) ((amounts.map (nearestUnits places)).sum : Int)
  have hbound : 2 * |((nearestUnits places amounts.sum : Int) : Rat) -
      ((amounts.map (nearestUnits places)).sum : Int)| ≤ amounts.length + 1 := by
    linarith
  exact_mod_cast hbound

theorem sum_printed (amounts : List Rat) :
    (amounts.map printed).sum = ((amounts.map (nearestUnits 2)).sum : Int) / 100 := by
  induction amounts with
  | nil => simp
  | cons x rest ih =>
    simp only [List.map_cons, List.sum_cons, Int.cast_add, add_div, ih]
    rfl

/-- The same in cents: two terms make one cent. -/
theorem abs_printed_sum_sub_le (amounts : List Rat) (cents : Nat)
    (h : amounts.length ≤ 2 * cents) :
    |printed amounts.sum - (amounts.map printed).sum| ≤ (cents : Rat) / 100 := by
  have hunits := two_mul_abs_nearestUnits_sum_le 2 amounts
  have hcents : |nearestUnits 2 amounts.sum - (amounts.map (nearestUnits 2)).sum| ≤ cents := by
    omega
  have hcast : |(nearestUnits 2 amounts.sum : Rat) -
      ((amounts.map (nearestUnits 2)).sum : Int)| ≤ cents := by
    exact_mod_cast hcents
  rw [sum_printed, printed, ← sub_div, abs_div, abs_of_pos (show (0 : Rat) < 100 by norm_num)]
  exact div_le_div_of_nonneg_right hcast (by norm_num)

/-- **Printed lines reconcile.**  Over exact numbers, whatever the four amounts are, every amount
of the price section is printed as a text that stands for some amount.  The printed base is within
two cents of the printed subtotal, markup and factory cost together, and the printed total is
within one cent of the printed base and installation and within two cents of all four. -/
theorem printed_amounts_reconcile (subtotal markup factory install : Rat) :
    ∃ s m f b i t : Rat,
      ((Breakdown.ofAmounts subtotal markup factory install).amounts.map exactCurrencyText).map
          printedAmount? = [some s, some m, some f, some b, some i, some t] ∧
        |b - (s + m + f)| ≤ 2 / 100 ∧
        |t - (b + i)| ≤ 1 / 100 ∧
        |t - (s + m + f + i)| ≤ 2 / 100 := by
  have hbase := abs_printed_sum_sub_le [subtotal, markup, factory] 2 (by simp)
  have htotal := abs_printed_sum_sub_le [subtotal + markup + factory, install] 1 (by simp)
  have hall := abs_printed_sum_sub_le [subtotal, markup, factory, install] 2 (by simp)
  simp only [List.sum_cons, List.sum_nil, List.map_cons, List.map_nil, add_zero, ← add_assoc,
    Nat.cast_ofNat, Nat.cast_one] at hbase htotal hall
  refine ⟨printed subtotal, printed markup, printed factory,
    printed (subtotal + markup + factory), printed install,
    printed (subtotal + markup + factory + install), ?_, hbase, htotal, hall⟩
  simp only [Breakdown.amounts, Breakdown.lineAmounts, Breakdown.ofAmounts, List.cons_append,
    List.nil_append, List.map_cons, List.map_nil, printedAmount?_exactCurrencyText]

-- Ties that all go up while their sums go down: the base and the total are two cents less than the
-- lines above them.
example : (Breakdown.ofAmounts (3 / 200) (3 / 200) (3 / 200) (3 / 200)).amounts.map
    exactCurrencyText = ["$0.02", "$0.02", "$0.02", "$0.04", "$0.02", "$0.06"] := by
  decide +kernel

end Fenestration
