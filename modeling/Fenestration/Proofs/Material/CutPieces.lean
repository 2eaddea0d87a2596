import Fenestration.Number.FixedPoint
import Fenestration.Proofs.Layout.Composition
import Fenestration.Proofs.Layout.PaneIdentifiers
import Fenestration.Proofs.Material.ClosedForm
import Mathlib.Data.List.Nodup

/-!
# Pieces to cut

A cutting list and a glass schedule are made from one layout, and each can be checked against the
other: a divider stands between two rows or between two panes, so the schedule says how many there
must be, and both lists say how many separators the style code has.  Main statement:
`cuttingList_fits_glassSchedule`.
-/

namespace Fenestration

/-! ## Components -/

theorem natText_injective : Function.Injective natText := by
  intro m n h
  have hdigits : digitsOf m = digitsOf n := String.ofList_injective h
  have hvalue := congrArg Decimal.readDigits hdigits
  rwa [Decimal.readDigits_digitsOf, Decimal.readDigits_digitsOf] at hvalue

-- The four kinds of component begin with different letters.
theorem Component.text_injective : Function.Injective Component.text := by
  intro a b h
  have hhead := congrArg (fun text : String => text.toList.head?) h
  cases a with
  | mullion row =>
    cases b with
    | mullion other =>
      have hnumbers : natText row = natText other :=
        (String.append_right_inj "mullion-row-").mp h
      rw [natText_injective hnumbers]
    | _ => simp [text] at hhead
  | _ =>
    cases b with
    | mullion other => simp [text] at hhead
    | _ => first | rfl | simp [text] at hhead

/-! ## Numbered rows -/

-- Where every item counts at least one, one less of each is as many less as there are items.
theorem sum_pred_add_length {counts : List Nat} (h : ∀ count ∈ counts, 1 ≤ count) :
    (counts.map (· - 1)).sum + counts.length = counts.sum := by
  induction counts with
  | nil => rfl
  | cons count rest ih =>
    have hcount := h count List.mem_cons_self
    have hrest := ih fun other hother => h other (List.mem_cons_of_mem count hother)
    rw [List.map_cons, List.sum_cons, List.sum_cons, List.length_cons]
    omega

theorem flatMap_if_singleton {β γ : Type} (xs : List β) (p : β → Prop) [DecidablePred p]
    (f : β → γ) :
    (xs.flatMap fun x => if p x then [f x] else []) = (xs.filter p).map f := by
  induction xs with
  | nil => rfl
  | cons x rest ih =>
    by_cases h : p x
    · simp [h, ih]
    · simp [h, ih]

namespace CuttingList

variable {α : Type}

theorem sum_quantity_transoms (width : α) {rowCount : Nat} (h : 0 < rowCount) :
    ((transoms width rowCount).map CutItem.quantity).sum + 1 = rowCount := by
  unfold transoms
  split
  · rw [List.map_singleton, List.sum_singleton]
    exact Nat.sub_add_cancel h
  · rw [List.map_nil, List.sum_nil]
    omega

theorem sum_quantity_mullions (rowHeight : α) (row paneCount : Nat) :
    ((mullions rowHeight row paneCount).map CutItem.quantity).sum = paneCount - 1 := by
  unfold mullions
  split
  · rw [List.map_singleton, List.sum_singleton]
  · rw [List.map_nil, List.sum_nil]
    omega

end CuttingList

namespace Layout

/-! ## Cutting list and glass schedule -/

section Lists

variable {α : Type} [Div α] [NatCast α]

-- The rows of a layout under their numbers, counted on the schedule.
theorem zipIdx_paneCounts (layout : Layout) (cut : CutSize α) (glazing : Option String) :
    layout.paneCounts.zipIdx 1 =
      (List.range' 1 layout.rowCount).map fun row =>
        ((panesIn (layout.glassSchedule cut glazing) row).length, row) := by
  have hlength : layout.paneCounts.length = layout.rowCount := List.length_map _
  rw [List.zipIdx_eq_zip_range', hlength, List.map_prod_right_eq_zip, lengths_panesIn]

theorem cuttingList_eq_mullions (layout : Layout) (cut : CutSize α) (glazing : Option String) :
    layout.cuttingList cut =
      [⟨.headSill, cut.width, 2⟩, ⟨.jambs, cut.height, 2⟩] ++
        CuttingList.transoms cut.width layout.rowCount ++
        ((List.range' 1 layout.rowCount).filter fun row =>
          2 ≤ (panesIn (layout.glassSchedule cut glazing) row).length).map fun row =>
            ⟨.mullion row, cut.height / (layout.rowCount : α),
              (panesIn (layout.glassSchedule cut glazing) row).length - 1⟩ := by
  unfold cuttingList
  dsimp only
  rw [layout.zipIdx_paneCounts cut glazing, List.flatMap_map]
  congr 1
  exact flatMap_if_singleton _ _ _

theorem sum_quantity_cuttingList (layout : Layout) (cut : CutSize α) :
    ((layout.cuttingList cut).map CutItem.quantity).sum = layout.paneTotal + 3 := by
  have htransoms := CuttingList.sum_quantity_transoms cut.width layout.rowCount_pos
  have hpanes : layout.paneCounts.sum = layout.paneTotal := List.length_flatten.symm
  have hlength : layout.paneCounts.length = layout.rowCount := List.length_map _
  have hmullions : (layout.paneCounts.map (· - 1)).sum + layout.rowCount = layout.paneTotal := by
    rw [← hlength, ← hpanes]
    apply sum_pred_add_length
    intro count hcount
    obtain ⟨row, hrow, rfl⟩ := List.mem_map.mp hcount
    exact row_length_pos hrow
  unfold cuttingList
  dsimp only
  rw [List.map_append, List.map_append, List.sum_append, List.sum_append,
    sum_flatMap_zipIdx _ _ _ _ (· - 1) fun paneCount row =>
      CuttingList.sum_quantity_mullions _ row paneCount]
  simp only [List.map_cons, List.map_nil, List.sum_cons, List.sum_nil]
  omega

theorem nodup_components (layout : Layout) (cut : CutSize α) :
    ((layout.cuttingList cut).map CutItem.component).Nodup := by
  have hmullions (rows : List Nat) (h : rows.Nodup) : (rows.map Component.mullion).Nodup :=
    List.Nodup.map (fun _ _ => Component.mullion.inj) h
  have hrange : (List.range' 1 layout.rowCount).Nodup := List.nodup_range' 1
  rw [layout.cuttingList_eq_mullions cut none]
  have hrows := hmullions _ (hrange.filter fun row =>
    2 ≤ (panesIn (layout.glassSchedule cut none) row).length)
  unfold CuttingList.transoms
  split
  · simpa [List.nodup_append, Function.comp_def] using hrows
  · simpa [List.nodup_append, Function.comp_def] using hrows

-- What can stand in a cutting list.
theorem of_mem_cuttingList {layout : Layout} {cut : CutSize α} {item : CutItem α}
    (h : item ∈ layout.cuttingList cut) :
    1 ≤ item.quantity ∧
      ∀ row, item.component = .mullion row → item.length = cut.height / (layout.rowCount : α) := by
  rw [layout.cuttingList_eq_mullions cut none] at h
  rcases List.mem_append.mp h with hframe | hmullion
  · rcases List.mem_append.mp hframe with hframe | htransom
    · simp only [List.mem_cons, List.not_mem_nil, or_false] at hframe
      rcases hframe with rfl | rfl
      · exact ⟨Nat.le_succ 1, fun row hrow => nomatch hrow⟩
      · exact ⟨Nat.le_succ 1, fun row hrow => nomatch hrow⟩
    · unfold CuttingList.transoms at htransom
      split at htransom
      · rw [List.mem_singleton] at htransom
        subst htransom
        exact ⟨by dsimp only; omega, fun row hrow => nomatch hrow⟩
      · exact absurd htransom List.not_mem_nil
  · obtain ⟨row, hrow, rfl⟩ := List.mem_map.mp hmullion
    have hpanes := of_decide_eq_true (List.mem_filter.mp hrow).2
    exact ⟨by dsimp only; omega, fun _ _ => rfl⟩

end Lists

end Layout

/-- The cutting list and the glass schedule belong to one layout of so many rows and panes. -/
structure PiecesFit (rowCount paneTotal : Nat) (cuts : List (CutItem Binary64))
    (glass : List (GlassPane Binary64)) : Prop where
  panes : glass.length = paneTotal
  pieces : (cuts.map CutItem.quantity).sum = paneTotal + 3
  distinct : (cuts.map fun item => item.component.text).Nodup
  components : (cuts.map fun item => (item.component.text, item.quantity)) =
    [("head-sill", 2), ("jambs", 2)] ++
      (if 1 < rowCount then [("transom", rowCount - 1)] else []) ++
      ((List.range' 1 rowCount).filter fun row => 2 ≤ (panesIn glass row).length).map fun row =>
        ("mullion-row-" ++ natText row, (panesIn glass row).length - 1)
  quantity_pos : ∀ item ∈ cuts, 1 ≤ item.quantity
  mullions : ∀ item ∈ cuts, ∀ row, item.component = .mullion row → ∀ pane ∈ glass,
    item.length = pane.height ∧ millimetreText item.length = millimetreText pane.height

theorem Layout.piecesFit (layout : Layout) (cut : CutSize Binary64) (glazing : Option String) :
    PiecesFit layout.rowCount layout.paneTotal (layout.cuttingList cut)
      (layout.glassSchedule cut glazing) where
  panes := layout.length_glassSchedule cut glazing
  pieces := layout.sum_quantity_cuttingList cut
  distinct := by
    have htexts := (layout.nodup_components cut).map Component.text_injective
    rwa [List.map_map] at htexts
  components := by
    rw [layout.cuttingList_eq_mullions cut glazing]
    unfold CuttingList.transoms
    split
    · simp [Component.text, Function.comp_def]
    · simp [Component.text, Function.comp_def]
  quantity_pos item hitem := (of_mem_cuttingList hitem).1
  mullions item hitem row hrow pane hpane := by
    obtain ⟨panes, hin⟩ := exists_isIn_of_mem hpane
    have hlength : item.length = pane.height :=
      ((of_mem_cuttingList hitem).2 row hrow).trans hin.height.symm
    exact ⟨hlength, by rw [hlength]⟩

/-- **Nothing is cut or glazed too much.**  The separators of a style code count the panes of glass
and the pieces to cut, whatever the size and the glazing.  The pieces are those of the frame, the
transoms between the rows of the schedule and the mullions between the panes of each row, every
component once, and a mullion is as long as a pane is high. -/
theorem cuttingList_fits_glassSchedule (code : String) (cut : CutSize Binary64)
    (glazing : Option String) :
    PiecesFit (1 + code.toList.count '/') (1 + code.toList.count '/' + code.toList.count '-')
      ((Layout.ofCode code).cuttingList cut) ((Layout.ofCode code).glassSchedule cut glazing) := by
  rw [← Layout.paneTotal_ofCode, ← Layout.rowCount_ofCode]
  exact (Layout.ofCode code).piecesFit cut glazing

-- A row of one pane has no mullion, and the rows below it keep their numbers.
example : ((Layout.ofCode "S/A-F").cuttingList (⟨1000, 900⟩ : CutSize Binary64)).map
    (fun item => (item.component.text, item.quantity)) =
      [("head-sill", 2), ("jambs", 2), ("transom", 1), ("mullion-row-2", 1)] := by
  decide +kernel

end Fenestration
