import Fenestration.Cost
import Mathlib.Algebra.BigOperators.Ring.List
import Mathlib.Algebra.Field.Rat
import Mathlib.Tactic.Ring

/-!
# Material cost as a sum

Over exact numbers the order of the cost loop does not matter, and its guards do not either: a row
of one pane has mullions of total length zero.  The loop over the rows becomes a sum over rows of
sums over panes (`foldl_addRow`), and the material cost a sum of its parts
(`materialCost_eq_sum`).
-/

namespace Fenestration

namespace Pricing

def mullionLength (rowHeight : Rat) (paneCount : Nat) : Rat :=
  ((paneCount - 1 : Nat) : Rat) * rowHeight

def paneCost (pricing : Pricing Rat) (multiplier width height : Rat) (pane : Pane) : Rat :=
  width * height * pricing.glassRate * multiplier + pricing.hardwareCost pane

def rowCost (pricing : Pricing Rat) (multiplier width rowHeight : Rat) (row : List Pane) : Rat :=
  (row.map (pricing.paneCost multiplier (width / (row.length : Rat)) rowHeight)).sum

-- Between fewer than two rows or panes stands nothing, so the guards of the loops do not matter.
theorem cast_pred_eq_zero {n : Nat} (h : ¬ 1 < n) : ((n - 1 : Nat) : Rat) = 0 := by
  have hzero : n - 1 = 0 := by omega
  rw [hzero, Nat.cast_zero]

variable (pricing : Pricing Rat)

/-! ## One row -/

theorem addMullions_eq (rowHeight : Rat) (paneCount : Nat) (tally : Tally Rat) :
    pricing.addMullions rowHeight paneCount tally =
      ⟨tally.cost + mullionLength rowHeight paneCount * pricing.mullionRate,
        tally.mullion + mullionLength rowHeight paneCount⟩ := by
  unfold addMullions mullionLength
  by_cases h : 1 < paneCount
  · rw [if_pos h]
  · rw [if_neg h, cast_pred_eq_zero h, zero_mul, zero_mul, add_zero, add_zero]

theorem foldl_addPane (multiplier width height cost : Rat) (row : List Pane) :
    row.foldl (pricing.addPane multiplier (height * width)) cost =
      cost + (row.map (pricing.paneCost multiplier width height)).sum := by
  induction row generalizing cost with
  | nil => simp only [List.foldl_nil, List.map_nil, List.sum_nil, add_zero]
  | cons pane rest ih =>
    rw [List.foldl_cons, ih, List.map_cons, List.sum_cons, addPane, paneCost]
    ring

theorem addRow_eq (multiplier width rowHeight : Rat) (tally : Tally Rat) (row : List Pane) :
    pricing.addRow multiplier width rowHeight tally row =
      ⟨tally.cost + (mullionLength rowHeight row.length * pricing.mullionRate +
          pricing.rowCost multiplier width rowHeight row),
        tally.mullion + mullionLength rowHeight row.length⟩ := by
  rw [addRow, addMullions_eq, foldl_addPane, ← add_assoc]
  rfl

/-! ## All rows -/

def mullionTotal (rowHeight : Rat) (rows : List (List Pane)) : Rat :=
  (rows.map fun row => mullionLength rowHeight row.length).sum

def glassTotal (multiplier width rowHeight : Rat) (rows : List (List Pane)) : Rat :=
  (rows.map (pricing.rowCost multiplier width rowHeight)).sum

-- The loop over the rows, started anywhere.
theorem foldl_addRow (multiplier width rowHeight : Rat) (tally : Tally Rat)
    (rows : List (List Pane)) :
    rows.foldl (pricing.addRow multiplier width rowHeight) tally =
      ⟨tally.cost + (mullionTotal rowHeight rows * pricing.mullionRate +
          pricing.glassTotal multiplier width rowHeight rows),
        tally.mullion + mullionTotal rowHeight rows⟩ := by
  induction rows generalizing tally with
  | nil => simp [mullionTotal, glassTotal]
  | cons row rest ih =>
    rw [List.foldl_cons, ih, addRow_eq]
    simp only [mullionTotal, glassTotal, List.map_cons, List.sum_cons, Tally.mk.injEq]
    constructor <;> ring

theorem addTransoms_eq (cut : CutSize Rat) (rowCount : Nat) (cost : Rat) :
    pricing.addTransoms cut rowCount cost =
      cost + transomLength cut rowCount * pricing.mullionRate := by
  unfold addTransoms transomLength
  by_cases h : 1 < rowCount
  · rw [if_pos h]
  · rw [if_neg h, cast_pred_eq_zero h, zero_mul, zero_mul, add_zero]

/-- The material cost as frame, dividers, glass and powder coat. -/
theorem materialCost_eq_sum (glazing : Option String) (cut : CutSize Rat) (layout : Layout) :
    pricing.materialCost glazing cut layout =
      pricing.frameCost cut +
      (transomLength cut layout.rowCount +
        mullionTotal (cut.height / layout.rowCount) layout.rows) * pricing.mullionRate +
      pricing.glassTotal (pricing.glazingFactor glazing) cut.width (cut.height / layout.rowCount)
        layout.rows +
      (2 * cut.width + 2 * cut.height + transomLength cut layout.rowCount +
        mullionTotal (cut.height / layout.rowCount) layout.rows) * pricing.powderCoatRate := by
  simp only [materialCost, twice, foldl_addRow, addTransoms_eq, Nat.cast_zero, Nat.cast_ofNat]
  ring

end Pricing

end Fenestration
