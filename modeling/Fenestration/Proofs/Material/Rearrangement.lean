import Fenestration.Proofs.Layout.Grammar
import Fenestration.Proofs.Material.ClosedForm
import Fenestration.Proofs.Regrouping
import Mathlib.Data.List.Count

/-!
# Rearranged panes

Over exact numbers the material cost sees of a layout no more than a few counts: its rows, its panes
and the panes of each known kind.  Panes and rows can trade places, a pane can move to another row,
and a token that names no pane can be any other such token.  Main statement:
`materialCost_eq_costOfCounts`.
-/

namespace Fenestration

/-! ## Counts -/

-- The kinds of pane that carry hardware.
def Pane.known : List Pane :=
  [.awning, .fixed, .sliding]

def Layout.panesOfKind (layout : Layout) (kind : Pane) : Nat :=
  layout.rows.flatten.count kind

/-- The material cost of an opening with `n` rows, `total` panes and so many of each kind. -/
def Pricing.costOfCounts (pricing : Pricing Rat) (glazing : Option String) (cut : CutSize Rat)
    (n total : Nat) (kinds : Pane → Nat) : Rat :=
  cut.width * (pricing.headRate + pricing.sillRate) + 2 * cut.height * pricing.jambRate +
  pricing.mullionRate * ((n - 1) * cut.width + (total - n) * cut.height / n) +
  cut.width * cut.height * pricing.glassRate * pricing.glazingFactor glazing +
  (Pane.known.map fun kind => (kinds kind : Rat) * pricing.hardwareCost kind).sum +
  pricing.powderCoatRate *
    (2 * cut.width + 2 * cut.height + (n - 1) * cut.width + (total - n) * cut.height / n)

namespace Pricing

variable (pricing : Pricing Rat)

theorem hardwareTotal_eq_sum_kinds (panes : List Pane) :
    pricing.hardwareTotal panes =
      (Pane.known.map fun kind => (panes.count kind : Rat) * pricing.hardwareCost kind).sum := by
  have hsum (panes : List Pane) :
      (Pane.known.map fun kind => (panes.count kind : Rat) * pricing.hardwareCost kind).sum =
        panes.count .awning * pricing.hardwareCost .awning +
          (panes.count .fixed * pricing.hardwareCost .fixed +
            (panes.count .sliding * pricing.hardwareCost .sliding + 0)) := rfl
  have hunknown : pricing.hardwareCost .unknown = 0 := Nat.cast_zero
  unfold hardwareTotal
  induction panes with
  | nil => simp [Pane.known]
  | cons pane rest ih =>
    rw [List.map_cons, List.sum_cons, ih, hsum, hsum]
    cases pane with
    | unknown => simp [hunknown]
    | _ => simp; ring

theorem materialCost_eq_kinds (glazing : Option String) (cut : CutSize Rat) (layout : Layout) :
    pricing.materialCost glazing cut layout =
      pricing.costOfCounts glazing cut layout.rowCount layout.paneTotal layout.panesOfKind := by
  rw [materialCost_eq_closedForm, hardwareTotal_eq_sum_kinds]
  unfold costOfCounts Layout.dividerLength Layout.panesOfKind
  ring

variable {pricing}

theorem materialCost_eq_of_counts {a b : Layout} (hrows : a.rowCount = b.rowCount)
    (hpanes : a.paneTotal = b.paneTotal)
    (hkinds : ∀ kind ∈ Pane.known, a.panesOfKind kind = b.panesOfKind kind)
    (glazing : Option String) (cut : CutSize Rat) :
    pricing.materialCost glazing cut a = pricing.materialCost glazing cut b := by
  have hhardware :
      (Pane.known.map fun kind => (a.panesOfKind kind : Rat) * pricing.hardwareCost kind) =
        Pane.known.map fun kind => (b.panesOfKind kind : Rat) * pricing.hardwareCost kind :=
    List.map_congr_left fun kind hkind => by rw [hkinds kind hkind]
  rw [materialCost_eq_kinds, materialCost_eq_kinds, costOfCounts, hhardware, hrows, hpanes]
  rfl

end Pricing

/-! ## Style values -/

-- The tokens of a style value, row by row.
def styleTokens (value : Json) : List (List (List Char)) :=
  (value.asTextOrEmpty.toList.splitOn rowSeparator).map fun row => row.splitOn paneSeparator

/-- The same token, or two tokens neither of which names a pane. -/
def SameToken (a b : List Char) : Prop :=
  a = b ∨ Pane.ofToken a = .unknown ∧ Pane.ofToken b = .unknown

theorem SameToken.ofToken_eq {a b : List Char} (h : SameToken a b) :
    Pane.ofToken a = Pane.ofToken b := by
  rcases h with rfl | ⟨ha, hb⟩
  · rfl
  · rw [ha, hb]

theorem Layout.compile_eq_of_sameTokens {a b : Json}
    (h : List.Forall₂ (List.Forall₂ SameToken) (styleTokens a) (styleTokens b)) :
    (compile a).2 = (compile b).2 := by
  have hrows (value : Json) :
      (compile value).2.rows = (styleTokens value).map fun row => row.map Pane.ofToken := by
    rw [styleTokens, List.map_map]
    rfl
  refine Layout.ext ?_
  rw [hrows, hrows, ← List.forall₂_eq_eq_eq, List.forall₂_map_left_iff, List.forall₂_map_right_iff]
  refine h.imp fun row other hrow => ?_
  rw [← List.forall₂_eq_eq_eq, List.forall₂_map_left_iff, List.forall₂_map_right_iff]
  exact hrow.imp fun _ _ htoken => htoken.ofToken_eq

/-- **The cost sees counts alone.**  Over exact numbers the material cost of every layout is a
closed form of its rows, its panes and its known panes of each kind, so layouts that agree in these
cost the same.  Rearranged rows and panes do, and so do style values that differ in tokens that name
no pane. -/
theorem materialCost_eq_costOfCounts (pricing : Pricing Rat) (glazing : Option String)
    (cut : CutSize Rat) :
    (∀ layout : Layout, pricing.materialCost glazing cut layout =
      pricing.costOfCounts glazing cut layout.rowCount layout.paneTotal layout.panesOfKind) ∧
    (∀ a b : Layout, a.rowCount = b.rowCount → a.paneTotal = b.paneTotal →
      (∀ kind ∈ Pane.known, a.panesOfKind kind = b.panesOfKind kind) →
        pricing.materialCost glazing cut a = pricing.materialCost glazing cut b) ∧
    (∀ a b : Layout, Regrouping a.rows b.rows →
      pricing.materialCost glazing cut a = pricing.materialCost glazing cut b) ∧
    ∀ a b : Json, List.Forall₂ (List.Forall₂ SameToken) (styleTokens a) (styleTokens b) →
      pricing.materialCost glazing cut (Layout.compile a).2 =
        pricing.materialCost glazing cut (Layout.compile b).2 := by
  refine ⟨pricing.materialCost_eq_kinds glazing cut, fun a b hrows hpanes hkinds => ?_,
    fun a b h => ?_, fun a b h => ?_⟩
  · exact Pricing.materialCost_eq_of_counts hrows hpanes hkinds glazing cut
  · have hpanes := h.perm_flatten
    exact Pricing.materialCost_eq_of_counts h.length_eq hpanes.length_eq
      (fun kind _ => hpanes.count_eq kind) glazing cut
  · rw [Layout.compile_eq_of_sameTokens h]

-- The table has a price for unknown panes, which none of them is charged.
def Pricing.withUnknownKey : Pricing Rat where
  headRate := 1
  sillRate := 2
  jambRate := 3
  mullionRate := 4
  glassRate := 1 / 100
  powderCoatRate := 5
  glazingFactors := [(Glazing.toughened.key, 2)]
  hardwareCosts := [(Pane.unknown.key, 9), (Pane.awning.key, 80), (Pane.sliding.key, 70)]
  markupRatio := 2
  factoryCost := 750
  installCost := 800
  timberDeduction := 60

def uprightCut : CutSize Rat := ⟨1200, 900⟩

theorem materialCost_eq_costOfCounts_rearranged :
    Pricing.withUnknownKey.materialCost (some Glazing.toughened.key) uprightCut
        (Layout.ofCode "A-F-?/S") = 70650 ∧
      Pricing.withUnknownKey.materialCost (some Glazing.toughened.key) uprightCut
        (Layout.ofCode "S-?/A-F") = 70650 ∧
      Pricing.withUnknownKey.materialCost (some Glazing.toughened.key) uprightCut
        (Layout.ofCode "S/F-?-A") = 70650 ∧
      Pricing.withUnknownKey.materialCost (some Glazing.toughened.key) uprightCut
        (Layout.compile (.text "A-F-sash/S")).2 = 70650 := by
  obtain ⟨-, hcounts, hregrouping, htokens⟩ := materialCost_eq_costOfCounts
    Pricing.withUnknownKey (some Glazing.toughened.key) uprightCut
  have hprice : Pricing.withUnknownKey.materialCost (some Glazing.toughened.key) uprightCut
      (Layout.ofCode "A-F-?/S") = 70650 := by decide +kernel
  have hmoved (a b c d : Pane) : Regrouping [[a, b, c], [d]] [[d, c], [a, b]] := by
    apply Regrouping.trans (Regrouping.move [a, b] [c] [d] [])
    apply Regrouping.trans (Regrouping.groups (List.Perm.swap [c, d] [a, b] []))
    exact Regrouping.within (List.Perm.swap d c []) [[a, b]]
  have hrows : (Layout.ofCode "A-F-?/S").rows = [[.awning, .fixed, .unknown], [.sliding]] := by
    decide +kernel
  have hother : (Layout.ofCode "S-?/A-F").rows = [[.sliding, .unknown], [.awning, .fixed]] := by
    decide +kernel
  have hcode : styleTokens (.text "A-F-?/S") = [[['A'], ['F'], ['?']], [['S']]] := by
    decide +kernel
  have hsash : styleTokens (.text "A-F-sash/S") =
      [[['A'], ['F'], ['s', 'a', 's', 'h']], [['S']]] := by
    decide +kernel
  refine ⟨hprice, ?_, ?_, ?_⟩
  · rw [← hregrouping (Layout.ofCode "A-F-?/S") _ (hrows ▸ hother ▸ hmoved _ _ _ _)]
    exact hprice
  · rw [← hcounts (Layout.ofCode "A-F-?/S") _ (by decide +kernel) (by decide +kernel)
      (by decide +kernel)]
    exact hprice
  · rw [← htokens (.text "A-F-?/S") (.text "A-F-sash/S")]
    · exact hprice
    · rw [hcode, hsash]
      exact .cons (.cons (.inl rfl) (.cons (.inl rfl) (.cons (.inr ⟨rfl, rfl⟩) .nil)))
        (.cons (.cons (.inl rfl) .nil) .nil)

end Fenestration
