import Fenestration.Proofs.Layout.GlassRows
import Fenestration.Proofs.Number.ReadBack

/-!
# Pane identifiers

A glass schedule names every pane by a text, the number of its row and the number of its column
with a hyphen between them.  No digit is a hyphen, so both numbers can be read back, and a schedule
can be taken apart into rows by its texts alone.  Main statements: the identifiers of a schedule are
those of the places in its layout (`identifiers_glassSchedule`), and the panes that name a row are
the row (`panesIn_glassSchedule`).
-/

namespace Fenestration

/-! ## Texts -/

/-- The text that names the pane in the given row and column. -/
def paneIdentifier (row column : Nat) : String :=
  natText row ++ "-" ++ natText column

-- The number in front of the hyphen.
def rowNamed (identifier : String) : Nat :=
  Decimal.readDigits (identifier.toList.takeWhile Char.isDigit)

-- The number behind the hyphen.
def columnNamed (identifier : String) : Nat :=
  Decimal.readDigits (identifier.toList.dropWhile Char.isDigit).tail

theorem toList_paneIdentifier (row column : Nat) :
    (paneIdentifier row column).toList = digitsOf row ++ '-' :: digitsOf column := by
  simp [paneIdentifier, natText]

theorem stopsDigits_hyphen (cs : List Char) : Decimal.StopsDigits ('-' :: cs) := by
  rintro _ ⟨⟩
  rfl

theorem rowNamed_paneIdentifier (row column : Nat) :
    rowNamed (paneIdentifier row column) = row := by
  unfold rowNamed
  rw [toList_paneIdentifier, Decimal.takeWhile_isDigit_append (isDigits_digitsOf row)
    (stopsDigits_hyphen _), Decimal.readDigits_digitsOf]

theorem columnNamed_paneIdentifier (row column : Nat) :
    columnNamed (paneIdentifier row column) = column := by
  unfold columnNamed
  rw [toList_paneIdentifier, Decimal.dropWhile_isDigit_append (isDigits_digitsOf row)
    (stopsDigits_hyphen _), List.tail_cons, Decimal.readDigits_digitsOf]

theorem paneIdentifier_inj {row column other next : Nat}
    (h : paneIdentifier row column = paneIdentifier other next) :
    row = other ∧ column = next := by
  have hrow := congrArg rowNamed h
  have hcolumn := congrArg columnNamed h
  rw [rowNamed_paneIdentifier, rowNamed_paneIdentifier] at hrow
  rw [columnNamed_paneIdentifier, columnNamed_paneIdentifier] at hcolumn
  exact ⟨hrow, hcolumn⟩

/-! ## Places in a layout -/

/-- The places of the panes of a layout, row by row; rows and columns are counted from one. -/
def Layout.panePlaces (layout : Layout) : List (Nat × Nat) :=
  (layout.paneCounts.zipIdx 1).flatMap fun (paneCount, row) =>
    (List.range' 1 paneCount).map fun column => (row, column)

-- Row by row, and within a row from left to right.
def PlacePrecedes : Nat × Nat → Nat × Nat → Prop :=
  Prod.Lex (· < ·) (· < ·)

namespace Layout

theorem pairwise_panePlaces (layout : Layout) : layout.panePlaces.Pairwise PlacePrecedes := by
  unfold panePlaces
  rw [List.pairwise_flatMap]
  constructor
  · intro (paneCount, row) _
    rw [List.pairwise_map]
    apply (List.pairwise_lt_range' 1).imp
    intro column next hlt
    exact Prod.Lex.right row hlt
  · apply (pairwise_lt_zipIdx layout.paneCounts 1).imp
    intro (paneCount, row) (otherCount, other) hlt place hplace next hnext
    obtain ⟨column, -, rfl⟩ := List.mem_map.mp hplace
    obtain ⟨column', -, rfl⟩ := List.mem_map.mp hnext
    exact Prod.Lex.left column column' hlt

theorem mem_panePlaces_iff {layout : Layout} {row column : Nat} :
    (row, column) ∈ layout.panePlaces ↔
      1 ≤ row ∧ row ≤ layout.rowCount ∧
        1 ≤ column ∧ column ≤ layout.paneCounts.getD (row - 1) 0 := by
  have hlength : layout.paneCounts.length = layout.rowCount := List.length_map _
  unfold panePlaces
  rw [List.mem_flatMap]
  constructor
  · rintro ⟨⟨paneCount, number⟩, hcount, hplace⟩
    obtain ⟨next, hnext, heq⟩ := List.mem_map.mp hplace
    cases heq
    obtain ⟨hle, hget⟩ := List.mem_zipIdx_iff_le_and_getElem?_sub.mp hcount
    obtain ⟨hlt, -⟩ := List.getElem?_eq_some_iff.mp hget
    rw [List.mem_range'_1] at hnext
    rw [List.getD_eq_getElem?_getD, hget, Option.getD_some]
    simp only at hle hlt
    omega
  · rintro ⟨hrow, hle, hcolumn, hcount⟩
    have hlt : row - 1 < layout.paneCounts.length := by omega
    rw [List.getD_eq_getElem?_getD, List.getElem?_eq_getElem hlt, Option.getD_some] at hcount
    refine ⟨(layout.paneCounts[row - 1], row), ?_, ?_⟩
    · exact List.mem_zipIdx_iff_le_and_getElem?_sub.mpr ⟨hrow, List.getElem?_eq_getElem hlt⟩
    · refine List.mem_map.mpr ⟨column, ?_, rfl⟩
      rw [List.mem_range'_1]
      omega

/-! ## Schedules -/

variable {α : Type} [Div α] [NatCast α]

theorem identifiers_glassRow (width height : α) (label : String) (panes : List Pane) (row : Nat) :
    (glassRow width height label panes row).map GlassPane.identifier =
      (List.range' 1 panes.length).map fun column => paneIdentifier row column := by
  unfold glassRow
  rw [← List.zipIdx_map_snd 1 panes, List.map_map, List.map_map]
  rfl

/-- A schedule has the identifiers of the places in its layout. -/
theorem identifiers_glassSchedule (layout : Layout) (cut : CutSize α) (glazing : Option String) :
    (layout.glassSchedule cut glazing).map GlassPane.identifier =
      layout.panePlaces.map fun place => paneIdentifier place.1 place.2 := by
  have hcounts : layout.paneCounts.zipIdx 1 =
      (layout.rows.zipIdx 1).map fun part => (part.1.length, part.2) := by
    unfold paneCounts
    rw [List.zipIdx_map]
    rfl
  unfold panePlaces
  rw [glassSchedule_eq_flatten, ← List.flatMap_def, hcounts, List.flatMap_map, List.map_flatMap,
    List.map_flatMap]
  apply List.flatMap_congr
  intro part _
  rw [identifiers_glassRow, List.map_map]
  rfl

theorem length_glassRow (width height : α) (label : String) (panes : List Pane) (row : Nat) :
    (glassRow width height label panes row).length = panes.length := by
  unfold glassRow
  rw [List.length_map, List.length_zipIdx]

theorem length_glassSchedule (layout : Layout) (cut : CutSize α) (glazing : Option String) :
    (layout.glassSchedule cut glazing).length = layout.paneTotal := by
  have hlengths (width height : α) (label : String) :
      ((layout.rows.zipIdx 1).map fun part =>
        (glassRow width height label part.1 part.2).length) = layout.rows.map List.length := by
    simp only [length_glassRow]
    calc _ = ((layout.rows.zipIdx 1).map Prod.fst).map List.length := by
          rw [List.map_map]
          rfl
      _ = layout.rows.map List.length := by rw [List.zipIdx_map_fst]
  unfold paneTotal
  rw [glassSchedule_eq_flatten, List.length_flatten, List.length_flatten, List.map_map,
    ← hlengths]
  rfl

end Layout

/-- The pane has the place in the layout that its numbers say, in a row of the given panes, and its
share of the cut size. -/
structure GlassPane.IsIn {α : Type} [Div α] [NatCast α] (glass : GlassPane α) (panes : List Pane)
    (layout : Layout) (cut : CutSize α) : Prop where
  row_pos : 1 ≤ glass.row
  column_pos : 1 ≤ glass.column
  row_at : layout.rows[glass.row - 1]? = some panes
  pane_at : panes[glass.column - 1]? = some glass.pane
  width : glass.width = cut.width / (panes.length : α)
  height : glass.height = cut.height / (layout.rowCount : α)

/-- The panes of a schedule whose identifiers name the row. -/
def panesIn {α : Type} (schedule : List (GlassPane α)) (row : Nat) : List (GlassPane α) :=
  schedule.filter fun glass => rowNamed glass.identifier = row

namespace Layout

variable {α : Type}

theorem rowNamed_identifier (glass : GlassPane α) : rowNamed glass.identifier = glass.row :=
  rowNamed_paneIdentifier glass.row glass.column

variable [Div α] [NatCast α]

theorem exists_isIn_of_mem {layout : Layout} {cut : CutSize α} {glazing : Option String}
    {glass : GlassPane α} (h : glass ∈ layout.glassSchedule cut glazing) :
    ∃ panes, glass.IsIn panes layout cut := by
  rw [glassSchedule_eq_flatten, ← List.flatMap_def] at h
  obtain ⟨⟨panes, row⟩, hrow, hglass⟩ := List.mem_flatMap.mp h
  obtain ⟨⟨pane, column⟩, hpane, rfl⟩ := List.mem_map.mp hglass
  obtain ⟨hrowPos, hat⟩ := List.mem_zipIdx_iff_le_and_getElem?_sub.mp hrow
  obtain ⟨hcolumnPos, hplace⟩ := List.mem_zipIdx_iff_le_and_getElem?_sub.mp hpane
  exact ⟨panes, hrowPos, hcolumnPos, hat, hplace, rfl, rfl⟩

/-- The panes that name a row are the row. -/
theorem panesIn_glassSchedule {layout : Layout} {i : Nat} {panes : List Pane}
    (h : layout.rows[i]? = some panes) (cut : CutSize α) (glazing : Option String) :
    panesIn (layout.glassSchedule cut glazing) (1 + i) =
      glassRow cut.width (cut.height / (layout.rowCount : α)) (Glazing.labelFor glazing) panes
        (1 + i) := by
  unfold panesIn
  rw [glassSchedule_eq_flatten, ← List.flatMap_def]
  apply filter_flatMap_zipIdx _ _ h
  intro panes row glass hglass
  rw [rowNamed_identifier]
  exact row_of_mem_glassRow hglass

theorem lengths_panesIn (layout : Layout) (cut : CutSize α) (glazing : Option String) :
    ((List.range' 1 layout.rowCount).map fun row =>
      (panesIn (layout.glassSchedule cut glazing) row).length) = layout.paneCounts := by
  apply List.ext_getElem
  · rw [List.length_map, List.length_range', paneCounts, List.length_map]
    rfl
  · intro i hi hcount
    have hlt : i < layout.rows.length := by simpa [paneCounts] using hcount
    have hrow : layout.rows[i]? = some layout.rows[i] := List.getElem?_eq_getElem hlt
    rw [List.getElem_map, List.getElem_range', Nat.one_mul, panesIn_glassSchedule hrow,
      length_glassRow]
    simp [paneCounts]

end Layout

end Fenestration
