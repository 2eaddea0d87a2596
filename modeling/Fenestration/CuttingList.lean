import Fenestration.CutSize
import Fenestration.Layout
import Fenestration.Number.Notation

/-!
# Cutting lists

The extrusions to cut for one opening: head and sill, jambs, the transoms between rows, and for
each row the mullions between its panes.
-/

namespace Fenestration

/-- What an extrusion is for; rows are counted from one. -/
inductive Component
  | headSill
  | jambs
  | transom
  | mullion (row : Nat)
  deriving DecidableEq

def Component.text : Component → String
  | .headSill => "head-sill"
  | .jambs => "jambs"
  | .transom => "transom"
  | .mullion row => "mullion-row-" ++ natText row

@[ext]
structure CutItem (α : Type) where
  component : Component
  length : α
  quantity : Nat
  deriving DecidableEq

namespace CuttingList

variable {α : Type} [Div α] [NatCast α]

def mullions (rowHeight : α) (row paneCount : Nat) : List (CutItem α) :=
  if 1 < paneCount then [⟨.mullion row, rowHeight, paneCount - 1⟩] else []

def transoms (width : α) (rowCount : Nat) : List (CutItem α) :=
  if 1 < rowCount then [⟨.transom, width, rowCount - 1⟩] else []

end CuttingList

def Layout.cuttingList {α : Type} [Div α] [NatCast α] (layout : Layout) (cut : CutSize α) :
    List (CutItem α) :=
  let rowHeight := cut.height / (layout.rowCount : α)
  [⟨.headSill, cut.width, 2⟩, ⟨.jambs, cut.height, 2⟩] ++
    CuttingList.transoms cut.width layout.rowCount ++
    (layout.paneCounts.zipIdx 1).flatMap fun (paneCount, row) =>
      CuttingList.mullions rowHeight row paneCount

end Fenestration
