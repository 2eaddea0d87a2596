import Fenestration.Proofs.Layout.PaneIdentifiers
import Fenestration.Proofs.Material.ClosedForm
import Mathlib.Algebra.Order.Field.Basic
import Mathlib.Algebra.Order.Ring.Rat

/-!
# Glass that fills the opening

The panes of a schedule are those of the layout, each once, under a name that says where it stands.
Over exact numbers the panes of a row share the width of the opening and the rows its height, so
that nothing is left over and nothing overlaps.  Main statement: `glassSchedule_tiles`.
-/

namespace Fenestration

/-! ## Names -/

-- The panes of a schedule; those that follow each other under one row number make up a row.
def rowsByIdentifier {α : Type} (schedule : List (GlassPane α)) : List (List Pane) :=
  (schedule.splitBy fun a b => rowNamed a.identifier == rowNamed b.identifier).map fun row =>
    row.map GlassPane.pane

/-- The schedule names each place of the layout once, in order, and has under each name the kind and
the label of the pane there. -/
structure Layout.IsNamedBy {α : Type} (layout : Layout) (schedule : List (GlassPane α)) : Prop where
  identifiers : ∃ places : List (Nat × Nat), places.Pairwise PlacePrecedes ∧
    (∀ row column, (row, column) ∈ places ↔
      1 ≤ row ∧ row ≤ layout.rowCount ∧
        1 ≤ column ∧ column ≤ layout.paneCounts.getD (row - 1) 0) ∧
    schedule.map GlassPane.identifier = places.map fun place => paneIdentifier place.1 place.2
  distinct : (schedule.map GlassPane.identifier).Nodup
  panes : ∀ glass ∈ schedule, ∀ row column, glass.identifier = paneIdentifier row column →
    ∃ panes pane, layout.rows[row - 1]? = some panes ∧ panes[column - 1]? = some pane ∧
      glass.pane.key = pane.key ∧ glass.pane.label = pane.label
  rows : rowsByIdentifier schedule = layout.rows

/-- The panes of each row have the width of the opening between them, one pane of each row its
height, and all panes its area. -/
structure CutSize.IsTiledBy (cut : CutSize Rat) (layout : Layout)
    (schedule : List (GlassPane Rat)) : Prop where
  widths (row : Nat) : 1 ≤ row → row ≤ layout.rowCount →
    ((panesIn schedule row).map GlassPane.width).sum = cut.width
  heights (column : List (GlassPane Rat)) : (∀ glass ∈ column, glass ∈ schedule) →
    (column.map fun glass => rowNamed glass.identifier) = List.range' 1 layout.rowCount →
      (column.map GlassPane.height).sum = cut.height
  positive : ∀ glass ∈ schedule, 0 < glass.width ∧ 0 < glass.height
  area : (schedule.map fun glass => glass.width * glass.height).sum = cut.width * cut.height

namespace Layout

section Names

variable {α : Type} [Div α] [NatCast α]

theorem nodup_identifiers (layout : Layout) (cut : CutSize α) (glazing : Option String) :
    ((layout.glassSchedule cut glazing).map GlassPane.identifier).Nodup := by
  rw [identifiers_glassSchedule]
  unfold List.Nodup
  rw [List.pairwise_map]
  apply layout.pairwise_panePlaces.imp
  intro (row, column) (other, next) hlt heq
  obtain ⟨rfl, rfl⟩ := paneIdentifier_inj heq
  cases hlt with
  | left _ _ hrow => exact Nat.lt_irrefl row hrow
  | right _ hcolumn => exact Nat.lt_irrefl column hcolumn

theorem rowsByIdentifier_glassSchedule (layout : Layout) (cut : CutSize α)
    (glazing : Option String) :
    rowsByIdentifier (layout.glassSchedule cut glazing) = layout.rows := by
  unfold rowsByIdentifier
  simp only [rowNamed_identifier]
  exact layout.paneRows_glassSchedule cut glazing

theorem isNamedBy (layout : Layout) (cut : CutSize α) (glazing : Option String) :
    layout.IsNamedBy (layout.glassSchedule cut glazing) where
  identifiers := ⟨layout.panePlaces, layout.pairwise_panePlaces, fun _ _ => mem_panePlaces_iff,
    layout.identifiers_glassSchedule cut glazing⟩
  distinct := layout.nodup_identifiers cut glazing
  panes glass hglass row column hname := by
    obtain ⟨rfl, rfl⟩ := paneIdentifier_inj hname
    obtain ⟨panes, hin⟩ := exists_isIn_of_mem hglass
    exact ⟨panes, glass.pane, hin.row_at, hin.pane_at, rfl, rfl⟩
  rows := layout.rowsByIdentifier_glassSchedule cut glazing

end Names

/-! ## Sizes -/

section Sizes

variable (width height : Rat) (label : String) (panes : List Pane) (row : Nat)

theorem sum_width_glassRow :
    ((glassRow width height label panes row).map GlassPane.width).sum =
      panes.length * (width / panes.length) := by
  have hwidths : ∀ share ∈ (glassRow width height label panes row).map GlassPane.width,
      share = width / panes.length := by
    intro share hshare
    obtain ⟨glass, hglass, rfl⟩ := List.mem_map.mp hshare
    obtain ⟨part, -, rfl⟩ := List.mem_map.mp hglass
    rfl
  rw [List.sum_eq_card_nsmul _ _ hwidths, List.length_map, length_glassRow, nsmul_eq_mul]

theorem sum_area_glassRow :
    ((glassRow width height label panes row).map fun glass => glass.width * glass.height).sum =
      panes.length * (width / panes.length) * height := by
  have hareas : ((glassRow width height label panes row).map fun glass =>
        glass.width * glass.height) =
      (glassRow width height label panes row).map fun glass => glass.width * height := by
    apply List.map_congr_left
    intro glass hglass
    obtain ⟨part, -, rfl⟩ := List.mem_map.mp hglass
    rfl
  rw [hareas, List.sum_map_mul_right, sum_width_glassRow]

end Sizes

theorem length_mul_share {layout : Layout} {panes : List Pane} (h : panes ∈ layout.rows)
    (width : Rat) : panes.length * (width / panes.length) = width :=
  mul_div_cancel₀ width (Nat.cast_ne_zero.mpr (Nat.ne_of_gt (row_length_pos h)))

theorem rowCount_mul_share (layout : Layout) (height : Rat) :
    layout.rowCount * (height / layout.rowCount) = height :=
  mul_div_cancel₀ height (Nat.cast_ne_zero.mpr (Nat.ne_of_gt layout.rowCount_pos))

theorem sum_width_panesIn (layout : Layout) (cut : CutSize Rat) (glazing : Option String)
    {row : Nat} (hpos : 1 ≤ row) (hle : row ≤ layout.rowCount) :
    ((panesIn (layout.glassSchedule cut glazing) row).map GlassPane.width).sum = cut.width := by
  have hlt : row - 1 < layout.rows.length := by
    unfold rowCount at hle
    omega
  have hat : layout.rows[row - 1]? = some layout.rows[row - 1] := List.getElem?_eq_getElem hlt
  have hrow : row = 1 + (row - 1) := by omega
  rw [hrow, panesIn_glassSchedule hat, sum_width_glassRow,
    length_mul_share (List.getElem_mem hlt)]

-- A pane of each row: as many shares of the height as there are rows.
theorem sum_height_column {layout : Layout} {cut : CutSize Rat} {glazing : Option String}
    {column : List (GlassPane Rat)}
    (hmem : ∀ glass ∈ column, glass ∈ layout.glassSchedule cut glazing)
    (hrows : (column.map fun glass => rowNamed glass.identifier) =
      List.range' 1 layout.rowCount) :
    (column.map GlassPane.height).sum = cut.height := by
  have hlength : column.length = layout.rowCount := by
    have hlengths := congrArg List.length hrows
    rwa [List.length_map, List.length_range'] at hlengths
  have hheights : ∀ share ∈ column.map GlassPane.height, share = cut.height / layout.rowCount := by
    intro share hshare
    obtain ⟨glass, hglass, rfl⟩ := List.mem_map.mp hshare
    obtain ⟨panes, hin⟩ := exists_isIn_of_mem (hmem glass hglass)
    exact hin.height
  rw [List.sum_eq_card_nsmul _ _ hheights, List.length_map, hlength, nsmul_eq_mul,
    rowCount_mul_share]

theorem sum_area_glassSchedule (layout : Layout) (cut : CutSize Rat) (glazing : Option String) :
    ((layout.glassSchedule cut glazing).map fun glass => glass.width * glass.height).sum =
      cut.width * cut.height := by
  have hareas : ∀ area ∈ layout.rows.map (fun panes =>
      (panes.length : Rat) * (cut.width / panes.length) * (cut.height / layout.rowCount)),
      area = cut.width * (cut.height / layout.rowCount) := by
    intro area harea
    obtain ⟨panes, hpanes, rfl⟩ := List.mem_map.mp harea
    rw [length_mul_share hpanes]
  rw [glassSchedule_eq_flatten, ← List.flatMap_def, sum_flatMap_zipIdx _ _ _ _ _
    fun panes row => sum_area_glassRow _ _ _ panes row, List.sum_eq_card_nsmul _ _ hareas,
    List.length_map, nsmul_eq_mul, mul_left_comm]
  exact congrArg (cut.width * ·) (layout.rowCount_mul_share cut.height)

theorem size_pos {layout : Layout} {cut : CutSize Rat} {glazing : Option String}
    (hwidth : 0 < cut.width) (hheight : 0 < cut.height) {glass : GlassPane Rat}
    (h : glass ∈ layout.glassSchedule cut glazing) : 0 < glass.width ∧ 0 < glass.height := by
  obtain ⟨panes, hin⟩ := exists_isIn_of_mem h
  have hpanes : (0 : Rat) < panes.length :=
    Nat.cast_pos.mpr (row_length_pos (List.mem_of_getElem? hin.row_at))
  have hrows : (0 : Rat) < layout.rowCount := Nat.cast_pos.mpr layout.rowCount_pos
  rw [hin.width, hin.height]
  exact ⟨div_pos hwidth hpanes, div_pos hheight hrows⟩

end Layout

/-- **A glass schedule fills the opening.**  For every layout, and so for every style value, the
identifiers of the schedule are those of the places in the layout, in order and all different, each
with the kind and the label of its pane, and the layout can be read back off them.  Over exact
numbers, for an opening with a positive width and height, the panes of a row have its width between
them, a pane of each row its height, and all panes together its area. -/
theorem glassSchedule_tiles (layout : Layout) (glazing : Option String) :
    (∀ {α : Type} [Div α] [NatCast α] (cut : CutSize α),
      layout.IsNamedBy (layout.glassSchedule cut glazing)) ∧
    ∀ cut : CutSize Rat, 0 < cut.width → 0 < cut.height →
      cut.IsTiledBy layout (layout.glassSchedule cut glazing) := by
  refine ⟨fun cut => layout.isNamedBy cut glazing, fun cut hwidth hheight => ?_⟩
  exact
    { widths := fun row => layout.sum_width_panesIn cut glazing
      heights := fun column => Layout.sum_height_column
      positive := fun glass => Layout.size_pos hwidth hheight
      area := layout.sum_area_glassSchedule cut glazing }

-- Two panes over three, one of them of no known kind.
def unevenSchedule : List (GlassPane Rat) :=
  (Layout.ofCode "A-?/S-F-F").glassSchedule ⟨1200, 900⟩ none

theorem glassSchedule_tiles_unevenSchedule :
    (0 : Rat) < 1200 ∧ (0 : Rat) < 900 ∧
      unevenSchedule.map GlassPane.identifier = ["1-1", "1-2", "2-1", "2-2", "2-3"] ∧
      rowsByIdentifier unevenSchedule = [[.awning, .unknown], [.sliding, .fixed, .fixed]] ∧
      ((panesIn unevenSchedule 2).map GlassPane.width).sum = 1200 ∧
      ((unevenSchedule.filter fun glass => glass.column = 1).map GlassPane.height).sum = 900 ∧
      (unevenSchedule.map fun glass => glass.width * glass.height).sum = 1200 * 900 := by
  have hwidth : (0 : Rat) < 1200 := by decide
  have hheight : (0 : Rat) < 900 := by decide
  obtain ⟨hnames, htiles⟩ := glassSchedule_tiles (Layout.ofCode "A-?/S-F-F") none
  have htiled := htiles ⟨1200, 900⟩ hwidth hheight
  refine ⟨hwidth, hheight, by decide +kernel, (hnames _).rows.trans (by decide +kernel), ?_, ?_,
    htiled.area⟩
  · exact htiled.widths 2 (by decide) (by decide +kernel)
  · exact htiled.heights _ (fun glass h => (List.mem_filter.mp h).1) (by decide +kernel)

end Fenestration
