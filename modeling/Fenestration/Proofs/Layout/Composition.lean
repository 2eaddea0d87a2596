import Fenestration.Proofs.Layout.Grammar
import Fenestration.Proofs.Safety.Attempt
import Mathlib.Algebra.BigOperators.Group.List.Basic
import Mathlib.Algebra.GroupWithZero.Nat
import Mathlib.Data.List.Count

/-!
# Style codes put together

A style code is compiled piece by piece: a row separator sets the rows of two codes one below the
other, and a pane separator goes on with the first row of the second code where the last row of the
first one ends.  Empty pieces are no exception, so every separator counts: it adds one pane, and a
row separator one row.  Main statement: `ofCode_compositional`.
-/

namespace Fenestration

/-! ## Splitting at a separator -/

section Splitting

variable (separator : Char)

-- Two texts side by side: what is left of the first at its end runs on into the second.
theorem splitOn_append (xs ys : List Char) :
    (xs ++ ys).splitOn separator =
      (xs.splitOn separator).dropLast ++
        (ys.splitOn separator).modifyHead
          ((xs.splitOn separator).getLast (List.splitOn_ne_nil separator xs) ++ ·) := by
  induction xs with
  | nil =>
    obtain ⟨piece, pieces, hpieces⟩ :=
      List.exists_cons_of_ne_nil (List.splitOn_ne_nil separator ys)
    simp [hpieces]
  | cons c xs ih =>
    obtain ⟨piece, pieces, hpieces⟩ :=
      List.exists_cons_of_ne_nil (List.splitOn_ne_nil separator xs)
    simp only [hpieces] at ih
    by_cases hc : c = separator
    · subst hc
      simp [List.splitOn_cons_eq_if_modifyHead, hpieces, ih]
    · cases pieces with
      | nil => simp [List.splitOn_cons_eq_if_modifyHead, hc, hpieces, ih, Function.comp_def]
      | cons other pieces => simp [List.splitOn_cons_eq_if_modifyHead, hc, hpieces, ih]

theorem length_splitOn (cs : List Char) :
    (cs.splitOn separator).length = cs.count separator + 1 := by
  induction cs with
  | nil => rfl
  | cons c cs ih =>
    rw [List.splitOn_cons_eq_if_modifyHead, List.count_cons]
    split
    · rw [List.length_cons, ih]
    · rw [List.length_modifyHead, ih]

theorem flatten_splitOn (cs : List Char) :
    (cs.splitOn separator).flatten = cs.filter (· != separator) := by
  induction cs with
  | nil => rfl
  | cons c cs ih =>
    obtain ⟨piece, pieces, hpieces⟩ :=
      List.exists_cons_of_ne_nil (List.splitOn_ne_nil separator cs)
    rw [hpieces] at ih
    by_cases hc : c = separator
    · simp [List.splitOn_cons_eq_if_modifyHead, hc, hpieces, ← ih]
    · simp [List.splitOn_cons_eq_if_modifyHead, hc, hpieces, ← ih]

end Splitting

namespace Layout

/-! ## Rows of a code -/

theorem panesOf_append (xs ys : List Char) :
    panesOf (xs ++ paneSeparator :: ys) = panesOf xs ++ panesOf ys := by
  unfold panesOf
  rw [List.splitOn_append_cons_self, List.map_append]

theorem rows_ofCode (code : String) :
    (ofCode code).rows = (code.toList.splitOn rowSeparator).map panesOf :=
  rfl

theorem rows_append_rowSeparator (a b : String) :
    (ofCode (a ++ "/" ++ b)).rows = (ofCode a).rows ++ (ofCode b).rows := by
  have htext : (a ++ "/" ++ b).toList = a.toList ++ rowSeparator :: b.toList := by
    simp [rowSeparator]
  rw [rows_ofCode, htext, List.splitOn_append_cons_self, List.map_append]
  rfl

theorem rows_append_paneSeparator (a b : String) :
    (ofCode (a ++ "-" ++ b)).rows =
      (ofCode a).rows.dropLast ++
        ((ofCode a).rows.getLast (ofCode a).rows_ne_nil ++
          (ofCode b).rows.head (ofCode b).rows_ne_nil) :: (ofCode b).rows.tail := by
  have htext : (a ++ "-" ++ b).toList = a.toList ++ paneSeparator :: b.toList := by
    simp [paneSeparator]
  have hne : (paneSeparator == rowSeparator) = false := by decide
  obtain ⟨first, rest, hb⟩ :=
    List.exists_cons_of_ne_nil (List.splitOn_ne_nil rowSeparator b.toList)
  -- The separator between the panes stays with the second code, at the front of its first row.
  have hsecond : (paneSeparator :: b.toList).splitOn rowSeparator =
      (paneSeparator :: first) :: rest := by
    rw [List.splitOn_cons_eq_if_modifyHead, hne, hb]
    rfl
  simp only [rows_ofCode, htext, splitOn_append, hsecond, hb, List.modifyHead_cons,
    List.map_append, List.map_cons, List.map_dropLast, List.getLast_map, panesOf_append,
    List.head_cons, List.tail_cons]

theorem rows_of_no_separator {code : String} (hrow : '/' ∉ code.toList)
    (hpane : '-' ∉ code.toList) : (ofCode code).rows = [[Pane.ofToken code.toList]] := by
  have hsplit : code.toList.splitOn rowSeparator = [code.toList] := List.splitOn_eq_singleton hrow
  have htokens : code.toList.splitOn paneSeparator = [code.toList] :=
    List.splitOn_eq_singleton hpane
  rw [rows_ofCode, hsplit, List.map_singleton, panesOf, htokens, List.map_singleton]

/-! ## Separators counted -/

theorem length_panesOf (row : List Char) :
    (panesOf row).length = row.count paneSeparator + 1 := by
  unfold panesOf
  rw [List.length_map, length_splitOn]

theorem rowCount_ofCode (code : String) :
    (ofCode code).rowCount = 1 + code.toList.count '/' := by
  unfold rowCount
  rw [rows_ofCode, List.length_map, length_splitOn, Nat.add_comm]
  rfl

-- Splitting at the row separators leaves every pane separator in some row.
theorem sum_count_paneSeparator (code : List Char) :
    ((code.splitOn rowSeparator).map (List.count paneSeparator)).sum =
      code.count paneSeparator := by
  rw [← List.count_flatten, flatten_splitOn, List.count_filter (by decide)]

theorem paneTotal_ofCode (code : String) :
    (ofCode code).paneTotal = 1 + code.toList.count '/' + code.toList.count '-' := by
  have hlengths : (ofCode code).rows.map List.length =
      (code.toList.splitOn rowSeparator).map fun row => row.count paneSeparator + 1 := by
    rw [rows_ofCode, List.map_map]
    exact List.map_congr_left fun row _ => length_panesOf row
  unfold paneTotal
  rw [List.length_flatten, hlengths, List.sum_map_add, sum_count_paneSeparator, List.map_const',
    List.sum_replicate_nat, length_splitOn]
  change code.toList.count '-' + (code.toList.count '/' + 1) * 1 = _
  omega

/-- **Style codes are compiled piece by piece.**  A row separator puts the rows of one code below
those of another, a pane separator joins the last row of one code to the first row of another, and a
text without separators is a single pane.  So every code has a row and no empty row, and the
separators count its rows and its panes.  What divides a size by these numbers, for any style value,
never divides by zero. -/
theorem ofCode_compositional :
    (∀ a b : String, (ofCode (a ++ "/" ++ b)).rows = (ofCode a).rows ++ (ofCode b).rows) ∧
    (∀ a b : String, (ofCode (a ++ "-" ++ b)).rows =
      (ofCode a).rows.dropLast ++
        ((ofCode a).rows.getLast (ofCode a).rows_ne_nil ++
          (ofCode b).rows.head (ofCode b).rows_ne_nil) :: (ofCode b).rows.tail) ∧
    (∀ text : String, '/' ∉ text.toList → '-' ∉ text.toList →
      (ofCode text).rows = [[Pane.ofToken text.toList]]) ∧
    (∀ text : String, (ofCode text).rows ≠ [] ∧ (∀ row ∈ (ofCode text).rows, row ≠ []) ∧
      (ofCode text).rowCount = 1 + text.toList.count '/' ∧
      (ofCode text).paneTotal = 1 + text.toList.count '/' + text.toList.count '-') ∧
    ∀ (value : Json) (pricing : Pricing Binary64) (glazing : Option String)
      (cut : CutSize Binary64),
      Attempt.materialCost pricing glazing cut (compile value).2.rows =
        .ok (pricing.materialCost glazing cut (compile value).2) ∧
      Attempt.cuttingList cut (compile value).2.rows = .ok ((compile value).2.cuttingList cut) ∧
      Attempt.glassSchedule cut (compile value).2.rows glazing =
        .ok ((compile value).2.glassSchedule cut glazing) := by
  refine ⟨rows_append_rowSeparator, rows_append_paneSeparator, fun text => rows_of_no_separator,
    fun text => ⟨(ofCode text).rows_ne_nil, (ofCode text).row_ne_nil, rowCount_ofCode text,
      paneTotal_ofCode text⟩, fun value pricing glazing cut => ?_⟩
  exact ⟨Attempt.materialCost_rows pricing glazing cut _, Attempt.cuttingList_rows cut _,
    Attempt.glassSchedule_rows cut _ glazing⟩

-- Codes that end and begin with a separator, and one long token.
theorem ofCode_compositional_gaps :
    (ofCode ("A/" ++ "-" ++ "/S")).rows = [[.awning], [.unknown, .unknown], [.sliding]] ∧
      '/' ∉ "AF".toList ∧ '-' ∉ "AF".toList ∧ (ofCode "AF").rows = [[.unknown]] := by
  obtain ⟨-, hpanes, htoken, -, -⟩ := ofCode_compositional
  have hrow : '/' ∉ "AF".toList := by decide
  have hpane : '-' ∉ "AF".toList := by decide
  refine ⟨?_, hrow, hpane, ?_⟩
  · rw [hpanes "A/" "/S"]
    decide +kernel
  · rw [htoken "AF" hrow hpane]
    decide

end Layout

end Fenestration
