import Fenestration.Estimate
import Fenestration.Proofs.Number.Nonnegative
import Fenestration.Proofs.Quote.CutSizes

/-!
# Amounts that are not negative

Sizes reach from the smallest double to almost the greatest one, so lengths and areas overflow and
underflow on the way to a price.  No step turns that into nan: a rate is positive, so it takes
infinity to infinity; an area is a product of finite lengths; and counts, which may be zero,
multiply finite numbers alone.  Main statement: with rates that are positive and costs that are not
negative, every amount of an estimate is a finite number that is not negative, or infinity
(`estimate_hasAmounts`).
-/

namespace Fenestration

open Binary64

/-- Rates and factors are positive, costs and the deduction are not negative, the markup ratio is
more than one, and all of them are finite. -/
structure Pricing.IsSound (pricing : Pricing Binary64) : Prop where
  headRate : pricing.headRate.IsFinitePositive
  sillRate : pricing.sillRate.IsFinitePositive
  jambRate : pricing.jambRate.IsFinitePositive
  mullionRate : pricing.mullionRate.IsFinitePositive
  glassRate : pricing.glassRate.IsFinitePositive
  powderCoatRate : pricing.powderCoatRate.IsFinitePositive
  glazingFactors : ∀ row ∈ pricing.glazingFactors, row.2.IsFinitePositive
  hardwareCosts : ∀ row ∈ pricing.hardwareCosts, row.2.IsFiniteNonnegative
  markupRatio : pricing.markupRatio.isFinite = true ∧ ¬ pricing.markupRatio ≤ ((1 : Nat) : Binary64)
  factoryCost : pricing.factoryCost.IsFiniteNonnegative
  installCost : pricing.installCost.IsFiniteNonnegative
  timberDeduction : pricing.timberDeduction.IsFiniteNonnegative

/-- A finite number that is not negative, or positive infinity. -/
def Binary64.IsAmount (x : Binary64) : Prop :=
  x.isFinite = true ∧ ((0 : Nat) : Binary64) ≤ x ∨ x = .infinite false

structure Breakdown.HasAmounts (breakdown : Breakdown Binary64) : Prop where
  subtotal : breakdown.subtotal.IsAmount
  markup : breakdown.markup.IsAmount
  factory : breakdown.factory.IsAmount
  base : breakdown.base.IsAmount
  install : breakdown.install.IsAmount
  final : breakdown.final.IsAmount

/-- The openings of a project, and the panes in a row of any of them, are not too many to be counted
in doubles.  The bound is far beyond the length of any list in memory, which is below `2^63`. -/
structure Project.IsCountable (project : Project Binary64) : Prop where
  openings : project.entries.length < countLimit
  panes : ∀ entry ∈ project.entries, ∀ row ∈ (Layout.ofCode entry.opening.style).rows,
    row.length < countLimit

theorem Binary64.IsNonnegative.isAmount {x : Binary64} (h : x.IsNonnegative) : x.IsAmount := by
  cases x with
  | nan => exact absurd h not_isNonnegative_nan
  | infinite negative =>
    obtain rfl := isNonnegative_infinite_iff.mp h
    exact .inr rfl
  | finite negative mag fits => exact .inl ⟨rfl, zero_le_iff.mpr h⟩

/-! ## Material -/

/-- Sides of a window that can be made. -/
structure CutSize.IsFinitePositive (cut : CutSize Binary64) : Prop where
  width : cut.width.IsFinitePositive
  height : cut.height.IsFinitePositive

namespace Pricing

structure Tally.IsNonnegative (tally : Tally Binary64) : Prop where
  cost : tally.cost.IsNonnegative
  mullion : tally.mullion.IsNonnegative

theorem twice_isNonnegative {x : Binary64} (h : x.IsFiniteNonnegative) :
    (twice x).IsNonnegative := by
  have htwo : ((2 : Nat) : Binary64).isFinite = true := isFinite_natCast (by decide +kernel)
  rw [twice]
  exact IsFiniteNonnegative.mul ⟨htwo, isNonnegative_natCast 2⟩ h

section Material

variable {pricing : Pricing Binary64} (hpricing : pricing.IsSound)
include hpricing

theorem glazingFactor_isFinitePositive (glazing : Option String) :
    (pricing.glazingFactor glazing).IsFinitePositive := by
  have hone : ((1 : Nat) : Binary64).IsFinitePositive := by decide +kernel
  cases glazing with
  | none => exact hone
  | some key => exact Table.getD_lookup hpricing.glazingFactors key hone

theorem hardwareCost_isNonnegative (pane : Pane) : (pricing.hardwareCost pane).IsNonnegative := by
  have hzero := isNonnegative_natCast 0
  have hcosts : ∀ row ∈ pricing.hardwareCosts, row.2.IsNonnegative :=
    fun row hrow => (hpricing.hardwareCosts row hrow).nonnegative
  cases pane with
  | unknown => exact hzero
  | awning => exact Table.getD_lookup hcosts _ hzero
  | fixed => exact Table.getD_lookup hcosts _ hzero
  | sliding => exact Table.getD_lookup hcosts _ hzero

-- The rows may be so many that their height is zero; then the count of panes must not be infinite.
theorem addMullions_isNonnegative {rowHeight : Binary64} (hheight : rowHeight.IsFiniteNonnegative)
    {paneCount : Nat} (hcount : paneCount < countLimit) {tally : Tally Binary64}
    (h : tally.IsNonnegative) : (pricing.addMullions rowHeight paneCount tally).IsNonnegative := by
  rw [addMullions]
  by_cases hpanes : 1 < paneCount
  · have hfinite : ((paneCount - 1 : Nat) : Binary64).isFinite = true :=
      isFinite_natCast (Nat.lt_of_le_of_lt (Nat.sub_le _ _) hcount)
    have hlength : (((paneCount - 1 : Nat) : Binary64) * rowHeight).IsNonnegative :=
      IsFiniteNonnegative.mul ⟨hfinite, isNonnegative_natCast _⟩ hheight
    rw [if_pos hpanes]
    exact ⟨h.cost.add (hlength.mul_rate hpricing.mullionRate), h.mullion.add hlength⟩
  · rw [if_neg hpanes]
    exact h

theorem addPane_isNonnegative {multiplier area cost : Binary64}
    (hmultiplier : multiplier.IsFinitePositive) (harea : area.IsNonnegative)
    (hcost : cost.IsNonnegative) (pane : Pane) :
    (pricing.addPane multiplier area cost pane).IsNonnegative := by
  have hglass := (harea.mul_rate hpricing.glassRate).mul_rate hmultiplier
  rw [addPane]
  exact (hcost.add hglass).add (hardwareCost_isNonnegative hpricing pane)

theorem foldl_addPane_isNonnegative {multiplier area cost : Binary64}
    (hmultiplier : multiplier.IsFinitePositive) (harea : area.IsNonnegative)
    (hcost : cost.IsNonnegative) (row : List Pane) :
    (row.foldl (pricing.addPane multiplier area) cost).IsNonnegative :=
  List.foldlRecOn row _ hcost fun _ hcost pane _ =>
    addPane_isNonnegative hpricing hmultiplier harea hcost pane

theorem addRow_isNonnegative {multiplier width rowHeight : Binary64}
    (hmultiplier : multiplier.IsFinitePositive) (hwidth : width.IsFiniteNonnegative)
    (hheight : rowHeight.IsFiniteNonnegative) {tally : Tally Binary64} (h : tally.IsNonnegative)
    {row : List Pane} (hrow : 0 < row.length) (hcount : row.length < countLimit) :
    (pricing.addRow multiplier width rowHeight tally row).IsNonnegative := by
  have hmullions := addMullions_isNonnegative hpricing hheight hcount h
  have harea := hheight.mul (hwidth.div_natCast hrow)
  rw [addRow]
  exact ⟨foldl_addPane_isNonnegative hpricing hmultiplier harea hmullions.cost row,
    hmullions.mullion⟩

theorem foldl_addRow_isNonnegative {multiplier width rowHeight : Binary64}
    (hmultiplier : multiplier.IsFinitePositive) (hwidth : width.IsFiniteNonnegative)
    (hheight : rowHeight.IsFiniteNonnegative) {tally : Tally Binary64} (h : tally.IsNonnegative)
    {rows : List (List Pane)} (hrows : ∀ row ∈ rows, 0 < row.length)
    (hcounts : ∀ row ∈ rows, row.length < countLimit) :
    (rows.foldl (pricing.addRow multiplier width rowHeight) tally).IsNonnegative := by
  refine List.foldlRecOn rows _ h fun tally h row hrow => ?_
  exact addRow_isNonnegative hpricing hmultiplier hwidth hheight h (hrows row hrow)
    (hcounts row hrow)

theorem frameCost_isNonnegative {cut : CutSize Binary64} (hcut : cut.IsFinitePositive) :
    (pricing.frameCost cut).IsNonnegative := by
  -- The two rates may add up to infinity, but the width is not zero.
  have hrates : (pricing.headRate + pricing.sillRate).IsNonnegative :=
    hpricing.headRate.positive.isNonnegative.add hpricing.sillRate.positive.isNonnegative
  have hwidth := hcut.width
  have hframe : (cut.width * (pricing.headRate + pricing.sillRate)).IsNonnegative :=
    hwidth.positive.isNonnegative.mul hrates (.inl hwidth.finite) (.inr hwidth.positive)
  have hjambs :=
    (twice_isNonnegative hcut.height.isFiniteNonnegative).mul_rate hpricing.jambRate
  rw [frameCost]
  exact hframe.add hjambs

end Material

theorem transomLength_isNonnegative {cut : CutSize Binary64} (hcut : cut.IsFinitePositive)
    (rowCount : Nat) : (transomLength cut rowCount).IsNonnegative := by
  rw [transomLength]
  exact (isNonnegative_natCast _).mul_rate hcut.width

variable {pricing : Pricing Binary64} (hpricing : pricing.IsSound)
include hpricing

theorem addTransoms_isNonnegative {cut : CutSize Binary64} (hcut : cut.IsFinitePositive)
    (rowCount : Nat) {cost : Binary64} (hcost : cost.IsNonnegative) :
    (pricing.addTransoms cut rowCount cost).IsNonnegative := by
  rw [addTransoms]
  split
  · exact hcost.add ((transomLength_isNonnegative hcut rowCount).mul_rate hpricing.mullionRate)
  · exact hcost

theorem materialCost_isNonnegative (glazing : Option String) {cut : CutSize Binary64}
    (hcut : cut.IsFinitePositive) {layout : Layout}
    (hcounts : ∀ row ∈ layout.rows, row.length < countLimit) :
    (pricing.materialCost glazing cut layout).IsNonnegative := by
  have hwidth := hcut.width.isFiniteNonnegative
  have hheight := hcut.height.isFiniteNonnegative
  have hrowHeight := hheight.div_natCast layout.rowCount_pos
  have hrows : ∀ row ∈ layout.rows, 0 < row.length :=
    fun row hrow => List.length_pos_iff.mpr (layout.row_ne_nil row hrow)
  have hstart : (⟨pricing.addTransoms cut layout.rowCount (pricing.frameCost cut),
      ((0 : Nat) : Binary64)⟩ : Tally Binary64).IsNonnegative :=
    ⟨addTransoms_isNonnegative hpricing hcut _ (frameCost_isNonnegative hpricing hcut),
      isNonnegative_natCast 0⟩
  have hfactor := glazingFactor_isFinitePositive hpricing glazing
  have htally := foldl_addRow_isNonnegative hpricing hfactor hwidth hrowHeight hstart hrows hcounts
  have hframeLength := (twice_isNonnegative hwidth).add (twice_isNonnegative hheight)
  have hextrusion := (hframeLength.add (transomLength_isNonnegative hcut layout.rowCount)).add
    htally.mullion
  rw [materialCost]
  exact htally.cost.add (hextrusion.mul_rate hpricing.powderCoatRate)

end Pricing

/-! ## Openings -/

/-- A running sum over at most `n` openings. -/
structure RunningSum.IsNonnegative (sum : RunningSum Binary64) (n : Nat) : Prop where
  cost : sum.cost.IsNonnegative
  count : sum.count ≤ n

namespace Project

variable {pricing : Pricing Binary64} (hpricing : pricing.IsSound)
include hpricing

theorem deduction_isFiniteNonnegative (project : Project Binary64) :
    (project.deduction pricing).IsFiniteNonnegative := by
  unfold deduction
  cases project.frame with
  | timber => exact hpricing.timberDeduction
  | aluminium => exact ⟨isFinite_natCast (twoPow_pos 1023), isNonnegative_natCast 0⟩

variable {project : Project Binary64} (hmeasured : project.IsMeasured)
include hmeasured

theorem cut_isFinitePositive {entry : Entry Binary64} (hentry : entry ∈ project.entries)
    {cut : CutSize Binary64}
    (h : entry.opening.quotedSize? (project.deduction pricing) = some cut) :
    cut.IsFinitePositive := by
  have hdeduction := deduction_isFiniteNonnegative hpricing project
  obtain ⟨hwidth, hheight⟩ := hmeasured.of_mem_entries hentry
  obtain ⟨rfl, hsized, hcut⟩ := (hmeasured.quotedSize?_eq_some_iff hentry _ _).mp h
  obtain ⟨hcutWidth, hcutHeight⟩ := hcut.resolve_right (ne_nan_of_isFinite hdeduction.finite)
  exact ⟨⟨isFinite_sub ⟨hwidth, hsized.1.isNonnegative⟩ hdeduction, hcutWidth⟩,
    ⟨isFinite_sub ⟨hheight, hsized.2.isNonnegative⟩ hdeduction, hcutHeight⟩⟩

variable (hcountable : project.IsCountable)
include hcountable

theorem addOpening_isNonnegative {sum : RunningSum Binary64} {n : Nat} (h : sum.IsNonnegative n)
    {entry : Entry Binary64} (hentry : entry ∈ project.entries) :
    (project.addOpening pricing sum entry).IsNonnegative (n + 1) := by
  rw [addOpening]
  cases hsize : entry.opening.quotedSize? (project.frame.deduction pricing.timberDeduction) with
  | none => exact ⟨h.cost, Nat.le_succ_of_le h.count⟩
  | some cut =>
    have hcut := cut_isFinitePositive hpricing hmeasured hentry hsize
    have hcost := Pricing.materialCost_isNonnegative hpricing project.glazing hcut
      (hcountable.panes entry hentry)
    exact ⟨h.cost.add hcost, Nat.succ_le_succ h.count⟩

theorem foldl_addOpening_isNonnegative {sum : RunningSum Binary64} {n : Nat}
    (h : sum.IsNonnegative n) {entries : List (Entry Binary64)}
    (hentries : entries ⊆ project.entries) :
    (entries.foldl (project.addOpening pricing) sum).IsNonnegative (n + entries.length) := by
  induction entries generalizing sum n with
  | nil => exact h
  | cons entry rest ih =>
    rw [List.cons_subset] at hentries
    have hstep := addOpening_isNonnegative hpricing hmeasured hcountable h hentries.1
    have hrest := ih hstep hentries.2
    rwa [Nat.add_assoc, Nat.add_comm 1] at hrest

end Project

/-! ## Estimates -/

theorem Breakdown.ofAmounts_hasAmounts {subtotal markup factory install : Binary64}
    (hsubtotal : subtotal.IsNonnegative) (hmarkup : markup.IsNonnegative)
    (hfactory : factory.IsNonnegative) (hinstall : install.IsNonnegative) :
    (ofAmounts subtotal markup factory install).HasAmounts := by
  have hbase := (hsubtotal.add hmarkup).add hfactory
  exact ⟨hsubtotal.isAmount, hmarkup.isAmount, hfactory.isAmount, hbase.isAmount,
    hinstall.isAmount, (hbase.add hinstall).isAmount⟩

namespace Pricing

variable {pricing : Pricing Binary64} (hpricing : pricing.IsSound)
include hpricing

theorem breakdown_hasAmounts (installation : Bool) {subtotal : Binary64}
    (hsubtotal : subtotal.IsNonnegative) {count : Nat} (hcount : count < countLimit) :
    (pricing.breakdown installation subtotal count).HasAmounts := by
  have hexcess := sub_one_isFinitePositive hpricing.markupRatio.1 hpricing.markupRatio.2
  have hopenings : (count : Binary64).IsFiniteNonnegative :=
    ⟨isFinite_natCast hcount, isNonnegative_natCast count⟩
  have hinstall : (if installation then (count : Binary64) * pricing.installCost
      else ((0 : Nat) : Binary64)).IsNonnegative := by
    split
    · exact hopenings.mul hpricing.installCost
    · exact isNonnegative_natCast 0
  rw [breakdown]
  exact Breakdown.ofAmounts_hasAmounts hsubtotal (hsubtotal.mul_rate hexcess)
    (hopenings.mul hpricing.factoryCost) hinstall

end Pricing

theorem Project.estimate_hasAmounts_of_isMeasured {pricing : Pricing Binary64}
    (hpricing : pricing.IsSound) {project : Project Binary64} (hmeasured : project.IsMeasured)
    (hcountable : project.IsCountable) : (project.estimate pricing).HasAmounts := by
  have hzero := isNonnegative_natCast 0
  rw [estimate]
  split
  · exact Breakdown.ofAmounts_hasAmounts hzero hzero hzero hzero
  · have hstart : (⟨((0 : Nat) : Binary64), 0⟩ : RunningSum Binary64).IsNonnegative 0 :=
      ⟨hzero, Nat.le_refl 0⟩
    have hsum := foldl_addOpening_isNonnegative hpricing hmeasured hcountable hstart
      (List.Subset.refl project.entries)
    rw [Nat.zero_add] at hsum
    exact Pricing.breakdown_hasAmounts hpricing _ hsum.cost
      (Nat.lt_of_le_of_lt hsum.count hcountable.openings)

theorem Pricing.standard_isSound : standard.IsSound where
  headRate := by decide +kernel
  sillRate := by decide +kernel
  jambRate := by decide +kernel
  mullionRate := by decide +kernel
  glassRate := by decide +kernel
  powderCoatRate := by decide +kernel
  glazingFactors := by decide +kernel
  hardwareCosts := by decide +kernel
  markupRatio := by decide +kernel
  factoryCost := by decide +kernel
  installCost := by decide +kernel
  timberDeduction := by decide +kernel

/-- **No quote turns into nan or goes negative.**  With positive rates, costs that are not negative
and a markup ratio of more than one, all of them finite, every amount of the estimate of a loaded
project is a finite number that is not negative, or infinity, however large or small its sizes
are.  The standard pricing is such a pricing. -/
theorem estimate_hasAmounts :
    Pricing.standard.IsSound ∧
    ∀ pricing : Pricing Binary64, pricing.IsSound →
      ∀ fields project, Project.load fields = .ok project → project.IsCountable →
        (project.estimate pricing).HasAmounts :=
  ⟨Pricing.standard_isSound, fun _ hpricing _ _ hload hcountable =>
    Project.estimate_hasAmounts_of_isMeasured hpricing (Loading.isFrom_of_load hload).isMeasured
      hcountable⟩

-- An opening whose area and cost overflow, and one with rows of no height.
def vastFields : Json.Fields :=
  [("installationCosts", .text "yes"),
    ("rooms", .list [.object [("name", .text "Hall"), ("windows", .list
      [.object [("style", .text "A-F/S"), ("width", .text "1.7e308"), ("height", .text "1e308")],
        .object [("style", .text "F-F/F"), ("width", .text "1e308"),
          ("height", .text "5e-324")]])]])]

def vastProject : Project Binary64 :=
  { (Project.empty : Project Binary64) with
    installation := true
    rooms := [⟨"Hall", [⟨"A-F/S", 1.7e308, 1e308⟩, ⟨"F-F/F", 1e308, 5e-324⟩]⟩] }

theorem estimate_hasAmounts_vastProject :
    Project.load vastFields = .ok vastProject ∧
      (vastProject.estimate .standard).HasAmounts ∧
      (vastProject.estimate .standard).final = .infinite false := by
  have hload : Project.load vastFields = .ok vastProject := by decide +kernel
  have hcountable : vastProject.IsCountable := ⟨by decide +kernel, by decide +kernel⟩
  obtain ⟨hstandard, hamounts⟩ := estimate_hasAmounts
  exact ⟨hload, hamounts _ hstandard _ _ hload hcountable, by decide +kernel⟩

end Fenestration
