import Fenestration.Proofs.Material.CostSum
import Mathlib.Tactic.FieldSimp

/-!
# Material cost in closed form

Over exact numbers the rows of a layout share its height and the panes of a row its width, so the
glass of an opening is its area, however it is divided.  What is left of the layout in the cost is
the number of its rows, the number of its panes and their hardware.  Main statement:
`materialCost_eq_closedForm`.
-/

namespace Fenestration

namespace Layout

theorem row_length_pos {layout : Layout} {row : List Pane} (h : row ∈ layout.rows) :
    0 < row.length :=
  List.length_pos_iff.mpr (layout.row_ne_nil row h)

-- The length of all transoms and mullions: between rows and between the panes of each row.
def dividerLength (layout : Layout) (cut : CutSize Rat) : Rat :=
  ((layout.rowCount : Rat) - 1) * cut.width +
    ((layout.paneTotal : Rat) - layout.rowCount) * (cut.height / layout.rowCount)

end Layout

namespace Pricing

variable (pricing : Pricing Rat)

def hardwareTotal (panes : List Pane) : Rat :=
  (panes.map pricing.hardwareCost).sum

theorem mullionLength_of_pos (rowHeight : Rat) {paneCount : Nat} (h : 0 < paneCount) :
    mullionLength rowHeight paneCount = ((paneCount : Rat) - 1) * rowHeight := by
  unfold mullionLength
  rw [Nat.cast_pred h]

theorem mullionTotal_eq (rowHeight : Rat) {rows : List (List Pane)}
    (h : ∀ row ∈ rows, 0 < row.length) :
    mullionTotal rowHeight rows = ((rows.flatten.length : Rat) - rows.length) * rowHeight := by
  induction rows with
  | nil => simp [mullionTotal]
  | cons row rest ih =>
    have hrest := ih fun other hother => h other (List.mem_cons_of_mem row hother)
    have hrow := mullionLength_of_pos rowHeight (h row List.mem_cons_self)
    unfold mullionTotal at hrest ⊢
    rw [List.map_cons, List.sum_cons, hrest, hrow, List.flatten_cons, List.length_append,
      List.length_cons]
    push_cast
    ring

-- The panes of a row have the area of the row between them.
theorem rowCost_eq (multiplier width rowHeight : Rat) {row : List Pane} (h : 0 < row.length) :
    pricing.rowCost multiplier width rowHeight row =
      width * rowHeight * pricing.glassRate * multiplier + pricing.hardwareTotal row := by
  have hne : (row.length : Rat) ≠ 0 := Nat.cast_ne_zero.mpr (Nat.ne_of_gt h)
  unfold rowCost hardwareTotal paneCost
  rw [List.sum_map_add, List.map_const', List.sum_replicate, nsmul_eq_mul]
  congr 1
  field_simp

theorem glassTotal_eq (multiplier width rowHeight : Rat) {rows : List (List Pane)}
    (h : ∀ row ∈ rows, 0 < row.length) :
    pricing.glassTotal multiplier width rowHeight rows =
      width * (rowHeight * rows.length) * pricing.glassRate * multiplier +
        pricing.hardwareTotal rows.flatten := by
  induction rows with
  | nil => simp [glassTotal, hardwareTotal]
  | cons row rest ih =>
    have hrest := ih fun other hother => h other (List.mem_cons_of_mem row hother)
    have hrow := pricing.rowCost_eq multiplier width rowHeight (h row List.mem_cons_self)
    unfold glassTotal hardwareTotal at hrest ⊢
    rw [List.map_cons, List.sum_cons, hrest, hrow, List.flatten_cons, List.map_append,
      List.sum_append, List.length_cons]
    unfold hardwareTotal
    push_cast
    ring

/-- The material cost of an opening from its size, its dividers and its hardware. -/
theorem materialCost_eq_closedForm (glazing : Option String) (cut : CutSize Rat)
    (layout : Layout) :
    pricing.materialCost glazing cut layout =
      cut.width * (pricing.headRate + pricing.sillRate) + 2 * cut.height * pricing.jambRate +
      layout.dividerLength cut * pricing.mullionRate +
      cut.width * cut.height * pricing.glassRate * pricing.glazingFactor glazing +
      pricing.hardwareTotal layout.rows.flatten +
      (2 * cut.width + 2 * cut.height + layout.dividerLength cut) * pricing.powderCoatRate := by
  have hrows : ∀ row ∈ layout.rows, 0 < row.length := fun row => Layout.row_length_pos
  have hcount : (layout.rowCount : Rat) ≠ 0 :=
    Nat.cast_ne_zero.mpr (Nat.ne_of_gt layout.rowCount_pos)
  have hheight : cut.height / layout.rowCount * (layout.rows.length : Rat) = cut.height :=
    div_mul_cancel₀ cut.height hcount
  have hdividers : transomLength cut layout.rowCount +
      mullionTotal (cut.height / layout.rowCount) layout.rows = layout.dividerLength cut := by
    rw [mullionTotal_eq _ hrows]
    unfold transomLength
    rw [Nat.cast_pred layout.rowCount_pos]
    rfl
  rw [materialCost_eq_sum, glassTotal_eq _ _ _ _ hrows, hheight, ← hdividers]
  unfold frameCost twice
  push_cast
  ring

end Pricing

end Fenestration
