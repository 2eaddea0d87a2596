import Fenestration.Json.Text
import Fenestration.Layout

/-!
# The grammar of style codes

A style code is one or more rows with `/` between them, a row is one or more panes with `-` between
them, and a pane is one of the letters `A`, `F` and `S`.  A text outside the grammar describes a
layout as well, but then a pane of unknown kind stands in it.  Main statement:
`styleCode_correspondence`, that the texts of the grammar and the layouts without unknown panes
determine each other.
-/

namespace Fenestration

/-! ## Items with separators between them -/

/-- One or more items, with a separator between any two. -/
inductive Separated (separator : Char) (Item : List Char → Prop) : List Char → Prop
  | one {cs : List Char} (hitem : Item cs) : Separated separator Item cs
  | more {cs rest : List Char} (hitem : Item cs) (hrest : Separated separator Item rest) :
      Separated separator Item (cs ++ separator :: rest)

section Separated

variable {separator : Char} {Item : List Char → Prop}

theorem Separated.not_mem {c : Char} (hc : c ≠ separator) (hitem : ∀ cs, Item cs → c ∉ cs)
    {cs : List Char} (h : Separated separator Item cs) : c ∉ cs := by
  induction h with
  | one hcs => exact hitem _ hcs
  | @more cs rest hcs _ ih =>
    have hhead := hitem cs hcs
    simp [hhead, hc, ih]

theorem separated_intercalate {items : List (List Char)} (hne : items ≠ [])
    (hitems : ∀ item ∈ items, Item item) :
    Separated separator Item ([separator].intercalate items) := by
  induction items with
  | nil => exact absurd rfl hne
  | cons item rest ih =>
    have hitem : Item item := hitems item List.mem_cons_self
    cases rest with
    | nil =>
      rw [List.intercalate_singleton]
      exact .one hitem
    | cons next rest =>
      have hrest := ih (List.cons_ne_nil next rest) fun x hx =>
        hitems x (List.mem_cons_of_mem item hx)
      rw [List.intercalate_cons_cons, List.append_assoc, List.singleton_append]
      exact .more hitem hrest

-- Splitting at the separators finds the items, since no separator stands in an item.
theorem separated_iff_splitOn (hitem : ∀ cs, Item cs → separator ∉ cs) (cs : List Char) :
    Separated separator Item cs ↔ ∀ item ∈ cs.splitOn separator, Item item := by
  constructor
  · intro h
    induction h with
    | @one cs hcs =>
      rw [List.splitOn_eq_singleton (hitem cs hcs)]
      exact fun item h => List.mem_singleton.mp h ▸ hcs
    | @more cs rest hcs _ ih =>
      rw [List.splitOn_append_cons_self_of_not_mem (hitem cs hcs)]
      intro item h
      rcases List.mem_cons.mp h with rfl | hrest
      · exact hcs
      · exact ih item hrest
  · intro h
    have hjoined : Separated separator Item ([separator].intercalate (cs.splitOn separator)) :=
      separated_intercalate (List.splitOn_ne_nil separator cs) h
    rwa [List.intercalate_splitOn] at hjoined

end Separated

/-! ## The grammar -/

def IsPaneCode (cs : List Char) : Prop :=
  cs = ['A'] ∨ cs = ['F'] ∨ cs = ['S']

def IsRowCode : List Char → Prop :=
  Separated paneSeparator IsPaneCode

/-- The texts of the grammar. -/
def IsStyleCode (code : String) : Prop :=
  Separated rowSeparator IsRowCode code.toList

/-- Every pane of the layout is of a known kind. -/
def Layout.IsKnown (layout : Layout) : Prop :=
  ∀ row ∈ layout.rows, Pane.unknown ∉ row

theorem Pane.ofToken_ne_unknown_iff {cs : List Char} :
    ofToken cs ≠ .unknown ↔ IsPaneCode cs := by
  constructor
  · intro h
    rw [IsPaneCode, ← token_ofToken h]
    cases hpane : ofToken cs with
    | unknown => exact absurd hpane h
    | _ => decide
  · rintro (rfl | rfl | rfl) <;> decide

theorem Pane.separator_not_mem_token (pane : Pane) :
    paneSeparator ∉ pane.token ∧ rowSeparator ∉ pane.token := by
  cases pane <;> decide

theorem IsPaneCode.exists_token {cs : List Char} (h : IsPaneCode cs) :
    ∃ pane : Pane, cs = pane.token :=
  ⟨Pane.ofToken cs, (Pane.token_ofToken (Pane.ofToken_ne_unknown_iff.mpr h)).symm⟩

theorem IsPaneCode.separator_not_mem {cs : List Char} (h : IsPaneCode cs) :
    paneSeparator ∉ cs ∧ rowSeparator ∉ cs := by
  obtain ⟨pane, rfl⟩ := h.exists_token
  exact pane.separator_not_mem_token

theorem IsRowCode.separator_not_mem {row : List Char} (h : IsRowCode row) : rowSeparator ∉ row :=
  Separated.not_mem (by decide) (fun _ hcs => hcs.separator_not_mem.2) h

/-! ## Rows -/

namespace Layout

theorem map_eq_self {β : Type} {f : β → β} {values : List β}
    (h : ∀ value ∈ values, f value = value) : values.map f = values :=
  (List.map_congr_left h).trans (List.map_id' values)

theorem unknown_not_mem_panesOf_iff {row : List Char} :
    Pane.unknown ∉ panesOf row ↔ IsRowCode row := by
  have hsplit := separated_iff_splitOn (fun _ hcs => (IsPaneCode.separator_not_mem hcs).1) row
  rw [IsRowCode, hsplit, panesOf, List.mem_map, not_exists]
  refine forall_congr' fun token => ?_
  rw [← Pane.ofToken_ne_unknown_iff, not_and]

theorem rowCode_panesOf {row : List Char} (h : IsRowCode row) : rowCode (panesOf row) = row := by
  have htokens : ((row.splitOn paneSeparator).map Pane.ofToken).map Pane.token =
      row.splitOn paneSeparator := by
    rw [List.map_map]
    refine map_eq_self fun token htoken => ?_
    refine Pane.token_ofToken fun hunknown => ?_
    exact unknown_not_mem_panesOf_iff.mpr h (List.mem_map.mpr ⟨token, htoken, hunknown⟩)
  rw [rowCode, panesOf, htokens, List.intercalate_splitOn]

theorem panesOf_rowCode {row : List Pane} (h : row ≠ []) : panesOf (rowCode row) = row := by
  have htokens : ∀ token ∈ row.map Pane.token, paneSeparator ∉ token := by
    intro token htoken
    obtain ⟨pane, -, rfl⟩ := List.mem_map.mp htoken
    exact pane.separator_not_mem_token.1
  have hne : row.map Pane.token ≠ [] := by simpa using h
  rw [panesOf, rowCode, List.splitOn_intercalate paneSeparator htokens hne, List.map_map]
  exact List.map_id'' Pane.ofToken_token row

theorem rowSeparator_not_mem_rowCode {row : List Pane} (h : row ≠ []) :
    rowSeparator ∉ rowCode row := by
  have htokens : Separated paneSeparator (fun cs => ∃ pane : Pane, cs = pane.token)
      (rowCode row) := by
    refine separated_intercalate (by simpa using h) fun token htoken => ?_
    obtain ⟨pane, -, rfl⟩ := List.mem_map.mp htoken
    exact ⟨pane, rfl⟩
  refine htokens.not_mem (by decide) ?_
  rintro _ ⟨pane, rfl⟩
  exact pane.separator_not_mem_token.2

/-! ## Codes -/

-- A layout is read back from its code, unknown panes included: these stand there as empty tokens.
theorem ofCode_code (layout : Layout) : ofCode layout.code = layout := by
  have hrows : ∀ row ∈ layout.rows.map rowCode, rowSeparator ∉ row := by
    intro row hrow
    obtain ⟨panes, hpanes, rfl⟩ := List.mem_map.mp hrow
    exact rowSeparator_not_mem_rowCode (layout.row_ne_nil panes hpanes)
  have hne : layout.rows.map rowCode ≠ [] := by simpa using layout.rows_ne_nil
  refine Layout.ext ?_
  change rowsOf layout.code.toList = layout.rows
  rw [rowsOf, code, String.toList_ofList, List.splitOn_intercalate rowSeparator hrows hne,
    List.map_map]
  exact map_eq_self fun panes hpanes => panesOf_rowCode (layout.row_ne_nil panes hpanes)

theorem isKnown_ofCode_iff {code : String} : (ofCode code).IsKnown ↔ IsStyleCode code := by
  have hsplit := separated_iff_splitOn (fun _ hrow => IsRowCode.separator_not_mem hrow) code.toList
  have hrows : (ofCode code).rows = (code.toList.splitOn rowSeparator).map panesOf := rfl
  rw [IsStyleCode, hsplit, IsKnown, hrows, List.forall_mem_map]
  refine forall_congr' fun row => ?_
  rw [unknown_not_mem_panesOf_iff]

theorem code_ofCode {code : String} (h : IsStyleCode code) : (ofCode code).code = code := by
  have hrows : ((code.toList.splitOn rowSeparator).map panesOf).map rowCode =
      code.toList.splitOn rowSeparator := by
    rw [List.map_map]
    refine map_eq_self fun row hrow => ?_
    refine rowCode_panesOf (unknown_not_mem_panesOf_iff.mp ?_)
    exact isKnown_ofCode_iff.mpr h _ (List.mem_map.mpr ⟨row, hrow, rfl⟩)
  change String.ofList ([rowSeparator].intercalate
    (((code.toList.splitOn rowSeparator).map panesOf).map rowCode)) = code
  rw [hrows, List.intercalate_splitOn, String.ofList_toList]

instance (layout : Layout) : Decidable layout.IsKnown :=
  inferInstanceAs (Decidable (∀ row ∈ layout.rows, Pane.unknown ∉ row))

instance (code : String) : Decidable (IsStyleCode code) :=
  decidable_of_iff (ofCode code).IsKnown isKnown_ofCode_iff

-- Doubled separators, separators at an end and longer tokens are outside the grammar.
example : IsStyleCode "A-F/S" ∧ ¬ IsStyleCode "A--F" ∧ ¬ IsStyleCode "/S" ∧ ¬ IsStyleCode "AF" := by
  decide +kernel

-- What a value compiles to: its text, as a code, and the layout that this code describes.
def compile (value : Json) : String × Layout :=
  (value.asTextOrEmpty, ofCode value.asTextOrEmpty)

/-- **Style codes and known layouts determine each other.**  A layout of known panes is written as a
text of the grammar and compiled from it again.  A text of any other form compiles to a layout with
an unknown pane, a text of the grammar to one that is written as this text, so two such texts never
compile to the same rows. -/
theorem styleCode_correspondence :
    (∀ layout : Layout, layout.IsKnown →
      IsStyleCode layout.code ∧ compile (.text layout.code) = (layout.code, layout)) ∧
    (∀ text : String, (ofCode text).IsKnown ↔ IsStyleCode text) ∧
    (∀ text : String, IsStyleCode text → (ofCode text).code = text) ∧
    (∀ a b : String, IsStyleCode a → IsStyleCode b → a ≠ b →
      (ofCode a).rows ≠ (ofCode b).rows) := by
  refine ⟨fun layout hknown => ⟨?_, ?_⟩, fun _ => isKnown_ofCode_iff, fun _ => code_ofCode, ?_⟩
  · rw [← ofCode_code layout] at hknown
    exact isKnown_ofCode_iff.mp hknown
  · exact Prod.ext rfl (ofCode_code layout)
  · intro a b ha hb hne hrows
    refine hne ?_
    rw [← code_ofCode ha, Layout.ext hrows, code_ofCode hb]

end Layout

end Fenestration
