import Fenestration.CutSize
import Fenestration.Glazing
import Fenestration.Layout
import Fenestration.Number.Notation

/-!
# Glass schedules

The panes of glass for one opening, row by row.  The panes of a row share the width of the
opening, the rows its height.
-/

namespace Fenestration

/-- A pane of glass and its place; rows and panes are counted from one. -/
@[ext]
structure GlassPane (α : Type) where
  row : Nat
  column : Nat
  pane : Pane
  width : α
  height : α
  glazing : String
  deriving DecidableEq

def GlassPane.identifier {α : Type} (glass : GlassPane α) : String :=
  natText glass.row ++ "-" ++ natText glass.column

def Layout.glassSchedule {α : Type} [Div α] [NatCast α] (layout : Layout) (cut : CutSize α)
    (glazing : Option String) : List (GlassPane α) :=
  let height := cut.height / (layout.rowCount : α)
  let label := Glazing.labelFor glazing
  (layout.rows.zipIdx 1).flatMap fun (panes, row) =>
    let width := cut.width / (panes.length : α)
    (panes.zipIdx 1).map fun (pane, column) => ⟨row, column, pane, width, height, label⟩

end Fenestration
