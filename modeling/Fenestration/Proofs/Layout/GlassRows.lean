import Fenestration.GlassSchedule
import Fenestration.Proofs.Numbered
import Mathlib.Data.List.SplitBy

/-!
# The rows of a glass schedule

A glass schedule is one list of panes, each with the number of its row.  Panes that follow each
other under one number make up a row again, since no row of a layout is empty.  Main statement:
the layout can be read back off its schedule (`paneRows_glassSchedule`).
-/

namespace Fenestration

variable {α : Type}

def sameRow (a b : GlassPane α) : Bool :=
  a.row == b.row

/-- The panes of a schedule, row by row. -/
def paneRows (schedule : List (GlassPane α)) : List (List Pane) :=
  (schedule.splitBy sameRow).map fun row => row.map GlassPane.pane

namespace Layout

variable [Div α] [NatCast α]

-- One row of a schedule: panes of one width side by side.
def glassRow (width height : α) (label : String) (panes : List Pane) (row : Nat) :
    List (GlassPane α) :=
  (panes.zipIdx 1).map fun (pane, column) =>
    ⟨row, column, pane, width / (panes.length : α), height, label⟩

theorem glassSchedule_eq_flatten (layout : Layout) (cut : CutSize α) (glazing : Option String) :
    layout.glassSchedule cut glazing =
      ((layout.rows.zipIdx 1).map fun (panes, row) =>
        glassRow cut.width (cut.height / (layout.rowCount : α)) (Glazing.labelFor glazing) panes
          row).flatten :=
  rfl

section Rows

variable {width height : α} {label : String} {panes : List Pane} {row : Nat}

theorem row_of_mem_glassRow {glass : GlassPane α}
    (h : glass ∈ glassRow width height label panes row) : glass.row = row := by
  obtain ⟨⟨pane, column⟩, -, rfl⟩ := List.mem_map.mp h
  rfl

theorem glassRow_ne_nil (h : panes ≠ []) : glassRow width height label panes row ≠ [] := by
  unfold glassRow
  simpa using h

theorem isChain_glassRow :
    (glassRow width height label panes row).IsChain fun a b => sameRow a b = true := by
  apply List.Pairwise.isChain
  apply List.pairwise_of_forall_mem_list
  intro a ha b hb
  have hrow := row_of_mem_glassRow ha
  have hother := row_of_mem_glassRow hb
  simp only [sameRow, hrow, hother, beq_self_eq_true]

theorem map_pane_glassRow :
    (glassRow width height label panes row).map GlassPane.pane = panes := by
  unfold glassRow
  rw [List.map_map]
  exact List.zipIdx_map_fst 1 panes

-- Between two rows the number changes.
theorem sameRow_getLast_head {others : List Pane} {next : Nat} (hlt : row < next)
    (hpanes : panes ≠ []) (hothers : others ≠ []) :
    sameRow ((glassRow width height label panes row).getLast (glassRow_ne_nil hpanes))
      ((glassRow width height label others next).head (glassRow_ne_nil hothers)) = false := by
  unfold sameRow
  rw [row_of_mem_glassRow (List.getLast_mem _), row_of_mem_glassRow (List.head_mem _)]
  exact beq_false_of_ne (Nat.ne_of_lt hlt)

end Rows

theorem splitBy_glassSchedule (layout : Layout) (cut : CutSize α) (glazing : Option String) :
    (layout.glassSchedule cut glazing).splitBy sameRow =
      (layout.rows.zipIdx 1).map fun (panes, row) =>
        glassRow cut.width (cut.height / (layout.rowCount : α)) (Glazing.labelFor glazing) panes
          row := by
  have hpanes : ∀ part ∈ layout.rows.zipIdx 1, part.1 ≠ [] :=
    fun part hpart => layout.row_ne_nil part.1 (List.fst_mem_of_mem_zipIdx hpart)
  rw [glassSchedule_eq_flatten]
  apply List.splitBy_flatten
  · intro hmem
    obtain ⟨part, hpart, hnil⟩ := List.mem_map.mp hmem
    exact glassRow_ne_nil (hpanes part hpart) hnil
  · intro glass hglass
    obtain ⟨part, -, rfl⟩ := List.mem_map.mp hglass
    exact isChain_glassRow
  · rw [List.isChain_map]
    apply List.Pairwise.isChain
    refine (pairwise_lt_zipIdx layout.rows 1).imp_of_mem fun {a b} ha hb hlt => ?_
    exact ⟨_, _, sameRow_getLast_head hlt (hpanes a ha) (hpanes b hb)⟩

/-- A layout is read back off its schedule. -/
theorem paneRows_glassSchedule (layout : Layout) (cut : CutSize α) (glazing : Option String) :
    paneRows (layout.glassSchedule cut glazing) = layout.rows := by
  unfold paneRows
  rw [splitBy_glassSchedule, List.map_map]
  calc _ = (layout.rows.zipIdx 1).map Prod.fst := by
        apply List.map_congr_left
        intro part _
        exact map_pane_glassRow
    _ = layout.rows := List.zipIdx_map_fst 1 layout.rows

end Layout

end Fenestration
