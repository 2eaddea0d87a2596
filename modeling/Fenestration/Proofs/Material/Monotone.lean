import Fenestration.Proofs.Material.ClosedForm
import Mathlib.Algebra.Order.BigOperators.Group.List
import Mathlib.Algebra.Order.Field.Basic
import Mathlib.Algebra.Order.Ring.Rat
import Mathlib.Tactic.GCongr
import Mathlib.Tactic.Linarith
import Mathlib.Tactic.Positivity

/-!
# Larger openings take more material

Over exact numbers a part of the cost of an opening is a rate times a length, an area or a number of
panes.  Where no rate is negative, none of these goes down when the opening grows.  Main statements:
a material cost is not negative (`materialCost_nonneg`) and grows with the cut size
(`materialCost_mono`), strictly where the frame is paid by the millimetre
(`materialCost_strictMono`).
-/

namespace Fenestration

/-- Neither side is longer than that of the other cut size. -/
structure CutSize.Within (a b : CutSize Rat) : Prop where
  width : a.width ≤ b.width
  height : a.height ≤ b.height

namespace Layout

theorem one_le_rowCount (layout : Layout) : (1 : Rat) ≤ layout.rowCount :=
  Nat.one_le_cast.mpr layout.rowCount_pos

theorem rowCount_le_paneTotal (layout : Layout) : layout.rowCount ≤ layout.paneTotal := by
  have hrows : ∀ count ∈ layout.rows.map List.length, 1 ≤ count := by
    intro count hcount
    obtain ⟨row, hrow, rfl⟩ := List.mem_map.mp hcount
    exact row_length_pos hrow
  have hsum := List.length_le_sum_of_one_le _ hrows
  rw [List.length_map] at hsum
  unfold rowCount paneTotal
  rwa [List.length_flatten]

theorem dividerLength_mono (layout : Layout) {a b : CutSize Rat} (h : a.Within b) :
    layout.dividerLength a ≤ layout.dividerLength b := by
  have hrows : 0 ≤ (layout.rowCount : Rat) - 1 := sub_nonneg.mpr layout.one_le_rowCount
  have hpanes : 0 ≤ (layout.paneTotal : Rat) - layout.rowCount :=
    sub_nonneg.mpr (Nat.cast_le.mpr layout.rowCount_le_paneTotal)
  have hwidth := h.width
  have hheight := h.height
  unfold dividerLength
  gcongr

theorem dividerLength_nonneg (layout : Layout) {cut : CutSize Rat}
    (h : (⟨0, 0⟩ : CutSize Rat).Within cut) : 0 ≤ layout.dividerLength cut := by
  have hmono := layout.dividerLength_mono h
  have hzero : layout.dividerLength ⟨0, 0⟩ = 0 := by simp [dividerLength]
  rwa [hzero] at hmono

end Layout

namespace Pricing

/-- No figure that a material cost is computed from is negative. -/
structure HasNonnegativeRates (pricing : Pricing Rat) : Prop where
  headRate : 0 ≤ pricing.headRate
  sillRate : 0 ≤ pricing.sillRate
  jambRate : 0 ≤ pricing.jambRate
  mullionRate : 0 ≤ pricing.mullionRate
  glassRate : 0 ≤ pricing.glassRate
  powderCoatRate : 0 ≤ pricing.powderCoatRate
  glazingFactors : ∀ row ∈ pricing.glazingFactors, 0 ≤ row.2
  hardwareCosts : ∀ row ∈ pricing.hardwareCosts, 0 ≤ row.2

/-- Every extrusion is paid by the millimetre. -/
structure HasPositiveRates (pricing : Pricing Rat) : Prop where
  headRate : 0 < pricing.headRate
  sillRate : 0 < pricing.sillRate
  jambRate : 0 < pricing.jambRate
  mullionRate : 0 < pricing.mullionRate
  powderCoatRate : 0 < pricing.powderCoatRate

variable {pricing : Pricing Rat} (hpricing : pricing.HasNonnegativeRates)
include hpricing

theorem glazingFactor_nonneg (glazing : Option String) : 0 ≤ pricing.glazingFactor glazing := by
  have hone : (0 : Rat) ≤ ((1 : Nat) : Rat) := Nat.cast_nonneg 1
  cases glazing with
  | none => exact hone
  | some key => exact Table.getD_lookup hpricing.glazingFactors key hone

theorem hardwareCost_nonneg (pane : Pane) : 0 ≤ pricing.hardwareCost pane := by
  have hzero : (0 : Rat) ≤ ((0 : Nat) : Rat) := Nat.cast_nonneg 0
  cases pane with
  | unknown => exact hzero
  | awning => exact Table.getD_lookup hpricing.hardwareCosts _ hzero
  | fixed => exact Table.getD_lookup hpricing.hardwareCosts _ hzero
  | sliding => exact Table.getD_lookup hpricing.hardwareCosts _ hzero

theorem hardwareTotal_nonneg (panes : List Pane) : 0 ≤ pricing.hardwareTotal panes := by
  apply List.sum_nonneg
  intro cost hcost
  obtain ⟨pane, -, rfl⟩ := List.mem_map.mp hcost
  exact hardwareCost_nonneg hpricing pane

theorem materialCost_nonneg (glazing : Option String) (layout : Layout) {cut : CutSize Rat}
    (h : (⟨0, 0⟩ : CutSize Rat).Within cut) : 0 ≤ pricing.materialCost glazing cut layout := by
  have hdividers := layout.dividerLength_nonneg h
  have hhardware := hardwareTotal_nonneg hpricing layout.rows.flatten
  have hfactor := glazingFactor_nonneg hpricing glazing
  obtain ⟨hwidth, hheight⟩ := h
  obtain ⟨hhead, hsill, hjamb, hmullion, hglass, hcoat, -, -⟩ := hpricing
  dsimp only at hwidth hheight
  rw [materialCost_eq_closedForm]
  positivity

theorem frameCost_mono {a b : CutSize Rat} (h : a.Within b) :
    pricing.frameCost a ≤ pricing.frameCost b := by
  have hhead := hpricing.headRate
  have hsill := hpricing.sillRate
  have hjamb := hpricing.jambRate
  have hwidth := h.width
  have hheight := h.height
  unfold frameCost twice
  gcongr

-- Whatever else grows with an opening costs something or nothing.
theorem frameCost_sub_le (glazing : Option String) (layout : Layout) {a b : CutSize Rat}
    (hpos : (⟨0, 0⟩ : CutSize Rat).Within a) (h : a.Within b) :
    pricing.frameCost b - pricing.frameCost a ≤
      pricing.materialCost glazing b layout - pricing.materialCost glazing a layout := by
  have hfactor := glazingFactor_nonneg hpricing glazing
  have hdividers := layout.dividerLength_mono h
  obtain ⟨-, -, -, hmullion, hglass, hcoat, -, -⟩ := hpricing
  obtain ⟨hwidth, hheight⟩ := h
  have hheightPos : 0 ≤ a.height := hpos.height
  have hwidthPos : 0 ≤ b.width := hpos.width.trans hwidth
  have hdividerCost : layout.dividerLength a * pricing.mullionRate ≤
      layout.dividerLength b * pricing.mullionRate := by gcongr
  have hglassCost : a.width * a.height * pricing.glassRate * pricing.glazingFactor glazing ≤
      b.width * b.height * pricing.glassRate * pricing.glazingFactor glazing := by gcongr
  have hcoatCost :
      (2 * a.width + 2 * a.height + layout.dividerLength a) * pricing.powderCoatRate ≤
        (2 * b.width + 2 * b.height + layout.dividerLength b) * pricing.powderCoatRate := by
    gcongr
  rw [materialCost_eq_closedForm, materialCost_eq_closedForm]
  unfold frameCost twice
  push_cast
  linarith

theorem materialCost_mono (glazing : Option String) (layout : Layout) {a b : CutSize Rat}
    (hpos : (⟨0, 0⟩ : CutSize Rat).Within a) (h : a.Within b) :
    pricing.materialCost glazing a layout ≤ pricing.materialCost glazing b layout := by
  have hframe := frameCost_mono hpricing h
  have hgrowth := frameCost_sub_le hpricing glazing layout hpos h
  linarith

omit hpricing in
theorem frameCost_strictMono (hrates : pricing.HasPositiveRates) {a b : CutSize Rat}
    (h : a.Within b) (hlonger : a.width < b.width ∨ a.height < b.height) :
    pricing.frameCost a < pricing.frameCost b := by
  have hframeRate : 0 < pricing.headRate + pricing.sillRate :=
    add_pos hrates.headRate hrates.sillRate
  have hjamb := hrates.jambRate
  have hwidth := h.width
  have hheight := h.height
  unfold frameCost twice
  rcases hlonger with hlt | hlt
  · apply add_lt_add_of_lt_of_le <;> gcongr
  · apply add_lt_add_of_le_of_lt <;> gcongr

theorem materialCost_strictMono (hrates : pricing.HasPositiveRates) (glazing : Option String)
    (layout : Layout) {a b : CutSize Rat} (hpos : (⟨0, 0⟩ : CutSize Rat).Within a)
    (h : a.Within b) (hlonger : a.width < b.width ∨ a.height < b.height) :
    pricing.materialCost glazing a layout < pricing.materialCost glazing b layout := by
  have hframe := frameCost_strictMono hrates h hlonger
  have hgrowth := frameCost_sub_le hpricing glazing layout hpos h
  linarith

end Pricing

end Fenestration
