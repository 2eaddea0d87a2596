import Fenestration.CutSize
import Fenestration.Layout
import Fenestration.Pricing

/-!
# The material cost of an opening

The cost is added up in a fixed order, which matters where sums are rounded: frame, transoms, then
row by row the mullions and pane by pane the glass and the hardware, and last the powder coat on
every extrusion.
-/

namespace Fenestration

namespace Pricing

variable {α : Type} [Add α] [Mul α] [Div α] [NatCast α]

def twice (x : α) : α :=
  ((2 : Nat) : α) * x

/-- A running sum of cost, and the length of mullion in it. -/
structure Tally (α : Type) where
  cost : α
  mullion : α

def addMullions (pricing : Pricing α) (rowHeight : α) (paneCount : Nat) (tally : Tally α) :
    Tally α :=
  if 1 < paneCount then
    let length := ((paneCount - 1 : Nat) : α) * rowHeight
    ⟨tally.cost + length * pricing.mullionRate, tally.mullion + length⟩
  else
    tally

def addPane (pricing : Pricing α) (multiplier area : α) (cost : α) (pane : Pane) : α :=
  cost + area * pricing.glassRate * multiplier + pricing.hardwareCost pane

-- Adds a row of panes of equal width.
def addRow (pricing : Pricing α) (multiplier width rowHeight : α) (tally : Tally α)
    (row : List Pane) : Tally α :=
  let tally := pricing.addMullions rowHeight row.length tally
  let area := rowHeight * (width / (row.length : α))
  { tally with cost := row.foldl (pricing.addPane multiplier area) tally.cost }

def frameCost (pricing : Pricing α) (cut : CutSize α) : α :=
  cut.width * (pricing.headRate + pricing.sillRate) + twice cut.height * pricing.jambRate

def transomLength (cut : CutSize α) (rowCount : Nat) : α :=
  ((rowCount - 1 : Nat) : α) * cut.width

def addTransoms (pricing : Pricing α) (cut : CutSize α) (rowCount : Nat) (cost : α) : α :=
  if 1 < rowCount then cost + transomLength cut rowCount * pricing.mullionRate else cost

/-- The material cost of an opening cut to the given size. -/
def materialCost (pricing : Pricing α) (glazing : Option String) (cut : CutSize α)
    (layout : Layout) : α :=
  let rowHeight := cut.height / (layout.rowCount : α)
  let multiplier := pricing.glazingFactor glazing
  let start : Tally α :=
    ⟨pricing.addTransoms cut layout.rowCount (pricing.frameCost cut), ((0 : Nat) : α)⟩
  let tally := layout.rows.foldl (pricing.addRow multiplier cut.width rowHeight) start
  let extrusion :=
    twice cut.width + twice cut.height + transomLength cut layout.rowCount + tally.mullion
  tally.cost + extrusion * pricing.powderCoatRate

end Pricing

end Fenestration
