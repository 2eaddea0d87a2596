import Fenestration.CuttingList
import Fenestration.GlassSchedule
import Fenestration.Proofs.Material.CostSum
import Fenestration.Proofs.Numbered

/-!
# The bill of materials

The cutting list and the glass schedule of an opening name every piece that goes into it, so they
are a bill that can be priced item by item.  The cost of the opening is computed without either
list.  Main statement: over exact numbers the cost is the price of the bill
(`materialCost_eq_billPrice`), for every layout, cut size, glazing and pricing.
-/

namespace Fenestration

/-- All pieces of an opening. -/
structure BillOfMaterials (α : Type) where
  cuts : List (CutItem α)
  glass : List (GlassPane α)

def Layout.bill {α : Type} [Div α] [NatCast α] (layout : Layout) (cut : CutSize α)
    (glazing : Option String) : BillOfMaterials α where
  cuts := layout.cuttingList cut
  glass := layout.glassSchedule cut glazing

def Component.isDivider : Component → Bool
  | .headSill => false
  | .jambs => false
  | .transom => true
  | .mullion _ => true

namespace CuttingList

-- The length of items, each counted once.
def singleLength (items : List (CutItem Rat)) : Rat :=
  (items.map CutItem.length).sum

def totalLength (items : List (CutItem Rat)) : Rat :=
  (items.map fun item => item.length * (item.quantity : Rat)).sum

def itemsFor (kind : Component → Bool) (items : List (CutItem Rat)) : List (CutItem Rat) :=
  items.filter fun item => kind item.component

end CuttingList

open CuttingList

def Pricing.glassPrice (pricing : Pricing Rat) (glazing : Option String) (glass : GlassPane Rat) :
    Rat :=
  glass.width * glass.height * pricing.glassRate * pricing.glazingFactor glazing +
    pricing.hardwareCost glass.pane

/-- The price of a bill.  An item of head and sill is one of each; powder coat goes on every
extrusion. -/
def Pricing.billPrice (pricing : Pricing Rat) (glazing : Option String)
    (bill : BillOfMaterials Rat) : Rat :=
  singleLength (itemsFor (· = .headSill) bill.cuts) * (pricing.headRate + pricing.sillRate) +
  totalLength (itemsFor (· = .jambs) bill.cuts) * pricing.jambRate +
  pricing.mullionRate * totalLength (itemsFor Component.isDivider bill.cuts) +
  pricing.powderCoatRate * totalLength bill.cuts +
  (bill.glass.map (pricing.glassPrice glazing)).sum

/-! ## The cutting list -/

namespace Layout

-- The dividers of an opening: transoms, then mullions row by row.
def dividers (layout : Layout) (cut : CutSize Rat) : List (CutItem Rat) :=
  transoms cut.width layout.rowCount ++
    (layout.paneCounts.zipIdx 1).flatMap fun (paneCount, row) =>
      mullions (cut.height / (layout.rowCount : Rat)) row paneCount

theorem cuttingList_eq (layout : Layout) (cut : CutSize Rat) :
    layout.cuttingList cut =
      ⟨.headSill, cut.width, 2⟩ :: ⟨.jambs, cut.height, 2⟩ :: layout.dividers cut :=
  rfl

theorem component_of_mem_dividers {layout : Layout} {cut : CutSize Rat} {item : CutItem Rat}
    (h : item ∈ layout.dividers cut) :
    item.component = .transom ∨ ∃ row, item.component = .mullion row := by
  rcases List.mem_append.mp h with htransom | hmullion
  · unfold transoms at htransom
    split at htransom
    · exact .inl (congrArg CutItem.component (List.mem_singleton.mp htransom))
    · exact absurd htransom List.not_mem_nil
  · obtain ⟨⟨paneCount, row⟩, -, hitem⟩ := List.mem_flatMap.mp hmullion
    dsimp only [mullions] at hitem
    split at hitem
    · exact .inr ⟨row, congrArg CutItem.component (List.mem_singleton.mp hitem)⟩
    · exact absurd hitem List.not_mem_nil

theorem divider_items (layout : Layout) (cut : CutSize Rat) :
    itemsFor Component.isDivider (layout.cuttingList cut) = layout.dividers cut := by
  have htail : itemsFor Component.isDivider (layout.dividers cut) = layout.dividers cut := by
    apply List.filter_eq_self.mpr
    intro item hitem
    rcases component_of_mem_dividers hitem with h | ⟨row, h⟩
    · rw [h]; rfl
    · rw [h]; rfl
  rw [cuttingList_eq]
  exact htail

-- Items that are for no divider stand at the head of the cutting list.
theorem frame_items {kind : Component → Bool} (htransom : kind .transom = false)
    (hmullion : ∀ row, kind (.mullion row) = false) (layout : Layout) (cut : CutSize Rat) :
    itemsFor kind (layout.cuttingList cut) =
      itemsFor kind [⟨.headSill, cut.width, 2⟩, ⟨.jambs, cut.height, 2⟩] := by
  have htail : (layout.dividers cut).filter (fun item => kind item.component) = [] := by
    apply List.filter_eq_nil_iff.mpr
    intro item hitem
    rcases component_of_mem_dividers hitem with h | ⟨row, h⟩
    · rw [h, htransom]; exact Bool.false_ne_true
    · rw [h, hmullion]; exact Bool.false_ne_true
  have happend : layout.cuttingList cut =
      [⟨.headSill, cut.width, 2⟩, ⟨.jambs, cut.height, 2⟩] ++ layout.dividers cut :=
    layout.cuttingList_eq cut
  rw [happend, itemsFor, itemsFor, List.filter_append, htail, List.append_nil]

/-! ## Lengths -/

-- An item is listed only where there is something to stand between; its length is none otherwise.
theorem totalLength_between (component : Component) (length : Rat) (n : Nat) :
    totalLength (if 1 < n then [⟨component, length, n - 1⟩] else []) =
      ((n - 1 : Nat) : Rat) * length := by
  unfold totalLength
  by_cases h : 1 < n
  · rw [if_pos h, List.map_singleton, List.sum_singleton, mul_comm]
  · rw [if_neg h, Pricing.cast_pred_eq_zero h, zero_mul, List.map_nil, List.sum_nil]

theorem totalLength_transoms (cut : CutSize Rat) (rowCount : Nat) :
    totalLength (transoms cut.width rowCount) = Pricing.transomLength cut rowCount :=
  totalLength_between .transom cut.width rowCount

theorem totalLength_mullions (rowHeight : Rat) (row paneCount : Nat) :
    totalLength (mullions rowHeight row paneCount) = Pricing.mullionLength rowHeight paneCount :=
  totalLength_between (.mullion row) rowHeight paneCount

theorem totalLength_dividers (layout : Layout) (cut : CutSize Rat) :
    totalLength (layout.dividers cut) =
      Pricing.transomLength cut layout.rowCount +
        Pricing.mullionTotal (cut.height / layout.rowCount) layout.rows := by
  rw [← totalLength_transoms, totalLength, dividers, List.map_append, List.sum_append,
    sum_flatMap_zipIdx _ _ _ _ (Pricing.mullionLength (cut.height / layout.rowCount))]
  · rw [paneCounts, List.map_map]
    rfl
  · intro paneCount row
    exact totalLength_mullions _ row paneCount

theorem totalLength_cuttingList (layout : Layout) (cut : CutSize Rat) :
    totalLength (layout.cuttingList cut) =
      cut.width * 2 + (cut.height * 2 + totalLength (layout.dividers cut)) := by
  rw [cuttingList_eq, totalLength, List.map_cons, List.map_cons, List.sum_cons, List.sum_cons]
  rfl

/-! ## The glass schedule -/

theorem sum_glassPrice (pricing : Pricing Rat) (layout : Layout) (cut : CutSize Rat)
    (glazing : Option String) :
    ((layout.glassSchedule cut glazing).map (pricing.glassPrice glazing)).sum =
      pricing.glassTotal (pricing.glazingFactor glazing) cut.width (cut.height / layout.rowCount)
        layout.rows := by
  rw [glassSchedule, sum_flatMap_zipIdx _ _ _ _
    (pricing.rowCost (pricing.glazingFactor glazing) cut.width (cut.height / layout.rowCount))]
  · rfl
  · intro panes row
    let price := pricing.paneCost (pricing.glazingFactor glazing)
      (cut.width / (panes.length : Rat)) (cut.height / layout.rowCount)
    -- The price of a pane does not look at its column, so the columns can be dropped.
    calc _ = (((panes.zipIdx 1).map Prod.fst).map price).sum := by
          rw [List.map_map, List.map_map]
          rfl
      _ = (panes.map price).sum := by rw [List.zipIdx_map_fst]

end Layout

/-- **What is charged is what is cut.**  Over exact numbers the material cost of an opening is the
price of its bill of materials, for every layout and so for every style code. -/
theorem materialCost_eq_billPrice (pricing : Pricing Rat) (layout : Layout) (cut : CutSize Rat)
    (glazing : Option String) :
    pricing.materialCost glazing cut layout =
      pricing.billPrice glazing (layout.bill cut glazing) := by
  have hheadSill : itemsFor (· = .headSill) (layout.cuttingList cut) =
      [⟨.headSill, cut.width, 2⟩] := layout.frame_items rfl (fun _ => rfl) cut
  have hjambs : itemsFor (· = .jambs) (layout.cuttingList cut) = [⟨.jambs, cut.height, 2⟩] :=
    layout.frame_items rfl (fun _ => rfl) cut
  rw [pricing.materialCost_eq_sum, Pricing.billPrice, Layout.bill]
  dsimp only
  rw [hheadSill, hjambs, layout.divider_items, layout.totalLength_cuttingList,
    layout.totalLength_dividers, layout.sum_glassPrice]
  simp only [Pricing.frameCost, Pricing.twice, singleLength, totalLength, List.map_cons,
    List.map_nil, List.sum_cons, List.sum_nil, Nat.cast_ofNat]
  ring

end Fenestration
