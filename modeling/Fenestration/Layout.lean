import Fenestration.Pane

/-!
# Layouts and style codes

A layout is the arrangement of panes in an opening: rows from top to bottom, panes from left to
right.  A style code writes it with `/` between rows and `-` between the panes of a row.  Every
text compiles to a layout (`Layout.ofCode`), and a layout has at least one row and at least one
pane in each, so a size can always be divided among them.
-/

namespace Fenestration

def rowSeparator : Char := '/'

def paneSeparator : Char := '-'

/-- Rows of panes, none of them empty. -/
@[ext]
structure Layout where
  rows : List (List Pane)
  rows_ne_nil : rows ≠ []
  row_ne_nil : ∀ row ∈ rows, row ≠ []

namespace Layout

def panesOf (row : List Char) : List Pane :=
  (row.splitOn paneSeparator).map Pane.ofToken

def rowsOf (code : List Char) : List (List Pane) :=
  (code.splitOn rowSeparator).map panesOf

/-- The layout that a style code describes; every text describes one. -/
def ofCode (code : String) : Layout where
  rows := rowsOf code.toList
  rows_ne_nil := by simp [rowsOf]
  row_ne_nil := by
    intro row hrow
    obtain ⟨cs, -, rfl⟩ := List.mem_map.mp hrow
    simp [panesOf]

def rowCode (row : List Pane) : List Char :=
  [paneSeparator].intercalate (row.map Pane.token)

def code (layout : Layout) : String :=
  String.ofList ([rowSeparator].intercalate (layout.rows.map rowCode))

-- An empty token names an unknown pane, so no separator is lost.
example : (ofCode "A-F//S").rows = [[.awning, .fixed], [.unknown], [.sliding]] := by decide +kernel

def rowCount (layout : Layout) : Nat :=
  layout.rows.length

def paneCounts (layout : Layout) : List Nat :=
  layout.rows.map List.length

def paneTotal (layout : Layout) : Nat :=
  layout.rows.flatten.length

theorem rowCount_pos (layout : Layout) : 0 < layout.rowCount :=
  List.length_pos_iff.mpr layout.rows_ne_nil

end Layout

end Fenestration
