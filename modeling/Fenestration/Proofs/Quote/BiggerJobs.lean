import Fenestration.Proofs.Material.Monotone
import Fenestration.Proofs.Quote.ExactAmounts
import Fenestration.Proofs.Quote.Positions

/-!
# Bigger jobs

A job gets bigger when openings are made larger or when the frame takes less of them.  Openings that
were left out may then become part of the quote, so the two estimates need not count the same
openings; each opening is compared with itself instead, whether or not it counts.  Main statement:
over exact numbers no amount goes down, and the subtotal goes up if a quoted opening grew and every
extrusion costs something (`estimate_atMost_of_growsTo`).
-/

namespace Fenestration

/-! ## Growing projects -/

/-- The same opening, at most as wide and as high. -/
structure Opening.Within (a b : Opening Rat) : Prop where
  style : a.style = b.style
  width : a.width ≤ b.width
  height : a.height ≤ b.height

/-- The second project is the first with some openings enlarged, possibly in aluminium instead of
timber. -/
structure Project.GrowsTo (p q : Project Rat) : Prop where
  frame : q.frame = p.frame ∨ q.frame = .aluminium
  glazing : q.glazing = p.glazing
  installation : q.installation = p.installation
  rooms : List.Forall₂ (fun a b => List.Forall₂ Opening.Within a.openings b.openings)
    p.rooms q.rooms

/-- An opening that was already quoted has got wider or higher. -/
def Project.EnlargesQuoted (p q : Project Rat) (pricing : Pricing Rat) : Prop :=
  ∃ position room a other b, p.Holds position room a ∧ q.Holds position other b ∧
    a.IsQuoted (p.deduction pricing) ∧ (a.width < b.width ∨ a.height < b.height)

/-- No figure of the pricing is negative, and the markup ratio is at least one. -/
structure Pricing.IsNonnegative (pricing : Pricing Rat) : Prop extends
    pricing.HasNonnegativeRates where
  markupRatio : 1 ≤ pricing.markupRatio
  factoryCost : 0 ≤ pricing.factoryCost
  installCost : 0 ≤ pricing.installCost
  timberDeduction : 0 ≤ pricing.timberDeduction

def Pricing.deducting (pricing : Pricing Rat) (timberDeduction : Rat) : Pricing Rat :=
  { pricing with timberDeduction := timberDeduction }

/-- No amount exceeds that of the other breakdown. -/
structure Breakdown.AtMost (a b : Breakdown Rat) : Prop where
  subtotal : a.subtotal ≤ b.subtotal
  markup : a.markup ≤ b.markup
  factory : a.factory ≤ b.factory
  base : a.base ≤ b.base
  install : a.install ≤ b.install
  final : a.final ≤ b.final

/-! ## Sums over paired openings -/

section Sums

variable {β γ : Type} {R : β → γ → Prop} {xs : List β} {ys : List γ}

theorem sum_le_sum_of_forall₂ {M : Type} [AddMonoid M] [Preorder M] [AddLeftMono M]
    [AddRightMono M] {f : β → M} {g : γ → M} (h : List.Forall₂ R xs ys)
    (hle : ∀ x y, R x y → f x ≤ g y) : (xs.map f).sum ≤ (ys.map g).sum := by
  apply List.Forall₂.sum_le_sum
  rw [List.forall₂_map_left_iff, List.forall₂_map_right_iff]
  exact h.imp hle

theorem sum_lt_sum_of_forall₂ {f : β → Rat} {g : γ → Rat} (h : List.Forall₂ R xs ys)
    (hle : ∀ x y, R x y → f x ≤ g y) {i : Nat} {x : β} {y : γ} (hx : xs[i]? = some x)
    (hy : ys[i]? = some y) (hlt : R x y → f x < g y) : (xs.map f).sum < (ys.map g).sum := by
  induction h generalizing i with
  | nil => cases hx
  | @cons a b rest others hab hrest ih =>
    rw [List.map_cons, List.map_cons, List.sum_cons, List.sum_cons]
    cases i with
    | zero =>
      cases hx
      cases hy
      exact add_lt_add_of_lt_of_le (hlt hab) (sum_le_sum_of_forall₂ hrest hle)
    | succ i => exact add_lt_add_of_le_of_lt (hle a b hab) (ih hx hy)

end Sums

namespace Project.GrowsTo

variable {p q : Project Rat} (h : p.GrowsTo q)
include h

theorem total_le {M : Type} [AddMonoid M] [Preorder M] [AddLeftMono M] [AddRightMono M]
    {f g : Opening Rat → M} (hle : ∀ a b : Opening Rat, a.Within b → f a ≤ g b) :
    p.total f ≤ q.total g :=
  sum_le_sum_of_forall₂ h.rooms fun _ _ hroom => sum_le_sum_of_forall₂ hroom hle

-- One opening that adds more makes its room add more, and the room the project.
theorem total_lt {f g : Opening Rat → Rat} (hle : ∀ a b : Opening Rat, a.Within b → f a ≤ g b)
    {position : Position} {room other : Room Rat} {a b : Opening Rat}
    (ha : p.Holds position room a) (hb : q.Holds position other b)
    (hlt : a.Within b → f a < g b) : p.total f < q.total g := by
  refine sum_lt_sum_of_forall₂ h.rooms (fun _ _ hroom => sum_le_sum_of_forall₂ hroom hle)
    ha.room_at hb.room_at fun hroom => ?_
  exact sum_lt_sum_of_forall₂ hroom hle ha.opening_at hb.opening_at hlt

theorem deduction_le {timberDeduction : Rat} {pricing : Pricing Rat} (hpos : 0 ≤ timberDeduction)
    (hle : timberDeduction ≤ pricing.timberDeduction) :
    q.deduction (pricing.deducting timberDeduction) ≤ p.deduction pricing := by
  have hzero : 0 ≤ p.deduction pricing := by
    unfold deduction
    cases p.frame with
    | timber => exact hpos.trans hle
    | aluminium => exact Nat.cast_nonneg 0
  unfold deduction at hzero ⊢
  rcases h.frame with hsame | haluminium
  · rw [hsame]
    cases p.frame with
    | timber => exact hle
    | aluminium => exact le_rfl
  · rw [haluminium]
    exact hzero

end Project.GrowsTo

/-! ## One opening -/

theorem Opening.IsQuoted.within_cutSize {opening : Opening Rat} {deduction : Rat}
    (h : opening.IsQuoted deduction) :
    (⟨0, 0⟩ : CutSize Rat).Within (opening.cutSize deduction) := by
  obtain ⟨-, hwidth, hheight⟩ := isQuoted_iff.mp h
  exact ⟨(not_le.mp hwidth).le, (not_le.mp hheight).le⟩

namespace Opening.Within

variable {a b : Opening Rat} {d e : Rat} (h : a.Within b) (hle : e ≤ d)
include h hle

theorem cutSize : (a.cutSize d).Within (b.cutSize e) where
  width := sub_le_sub h.width hle
  height := sub_le_sub h.height hle

-- What is quoted stays quoted when it grows.
theorem isQuoted (hquoted : a.IsQuoted d) : b.IsQuoted e := by
  obtain ⟨⟨hwidth, hheight⟩, hcutWidth, hcutHeight⟩ := isQuoted_iff.mp hquoted
  have hcut := h.cutSize hle
  refine isQuoted_iff.mpr ⟨⟨?_, ?_⟩, ?_, ?_⟩
  · exact fun hb => hwidth (h.width.trans hb)
  · exact fun hb => hheight (h.height.trans hb)
  · exact fun hb => hcutWidth (hcut.width.trans hb)
  · exact fun hb => hcutHeight (hcut.height.trans hb)

theorem share_le : a.share d ≤ b.share e := by
  unfold share
  by_cases ha : a.IsQuoted d
  · rw [if_pos ha, if_pos (h.isQuoted hle ha)]
  · rw [if_neg ha]
    exact Nat.zero_le _

variable {pricing : Pricing Rat} (hpricing : pricing.HasNonnegativeRates)
include hpricing

-- An opening that was left out adds nothing, so that one that enters the quote adds no less.
theorem cost_le (glazing : String) (timberDeduction : Rat) :
    a.cost pricing glazing d ≤ b.cost (pricing.deducting timberDeduction) glazing e := by
  unfold cost
  by_cases ha : a.IsQuoted d
  · rw [if_pos ha, if_pos (h.isQuoted hle ha), h.style]
    exact Pricing.materialCost_mono hpricing glazing _ ha.within_cutSize (h.cutSize hle)
  · rw [if_neg ha]
    by_cases hb : b.IsQuoted e
    · rw [if_pos hb]
      exact Pricing.materialCost_nonneg hpricing glazing _ hb.within_cutSize
    · rw [if_neg hb]

theorem cost_lt (hrates : pricing.HasPositiveRates) (glazing : String) (timberDeduction : Rat)
    (ha : a.IsQuoted d) (hlonger : a.width < b.width ∨ a.height < b.height) :
    a.cost pricing glazing d < b.cost (pricing.deducting timberDeduction) glazing e := by
  have hcut : (a.cutSize d).width < (b.cutSize e).width ∨
      (a.cutSize d).height < (b.cutSize e).height :=
    hlonger.imp (fun hlt => (sub_lt_sub_right hlt d).trans_le (sub_le_sub_left hle _))
      (fun hlt => (sub_lt_sub_right hlt d).trans_le (sub_le_sub_left hle _))
  unfold cost
  rw [if_pos ha, if_pos (h.isQuoted hle ha), h.style]
  exact Pricing.materialCost_strictMono hpricing hrates glazing _ ha.within_cutSize
    (h.cutSize hle) hcut

end Opening.Within

/-! ## Breakdowns -/

theorem Pricing.IsNonnegative.breakdown_atMost {pricing : Pricing Rat}
    (h : pricing.IsNonnegative) (timberDeduction : Rat) (installation : Bool) {s t : Rat}
    {m n : Nat} (hsum : s ≤ t) (hcount : m ≤ n) :
    (pricing.breakdown installation s m).AtMost
      ((pricing.deducting timberDeduction).breakdown installation t n) := by
  have hcast : (m : Rat) ≤ n := Nat.cast_le.mpr hcount
  have hmarkup : s * (pricing.markupRatio - ((1 : Nat) : Rat)) ≤
      t * (pricing.markupRatio - ((1 : Nat) : Rat)) := by
    have hexcess : 0 ≤ pricing.markupRatio - ((1 : Nat) : Rat) := by
      rw [Nat.cast_one]
      exact sub_nonneg.mpr h.markupRatio
    gcongr
  have hfactory : (m : Rat) * pricing.factoryCost ≤ n * pricing.factoryCost := by
    have hcost := h.factoryCost
    gcongr
  have hinstall : (if installation then (m : Rat) * pricing.installCost else ((0 : Nat) : Rat)) ≤
      if installation then (n : Rat) * pricing.installCost else ((0 : Nat) : Rat) := by
    have hcost := h.installCost
    split
    · gcongr
    · exact le_rfl
  have hbase := add_le_add (add_le_add hsum hmarkup) hfactory
  exact ⟨hsum, hmarkup, hfactory, hbase, hinstall, add_le_add hbase hinstall⟩

/-- **A bigger job never costs less.**  Over exact numbers, with no negative figures and a markup
ratio of at least one, no amount goes down when openings are enlarged, less is deducted for timber
or the frame is aluminium instead.  If every extrusion costs something, the subtotal goes up as soon
as one opening that was quoted already has got wider or higher. -/
theorem estimate_atMost_of_growsTo {pricing : Pricing Rat} (hpricing : pricing.IsNonnegative)
    {timberDeduction : Rat} (hpos : 0 ≤ timberDeduction)
    (hle : timberDeduction ≤ pricing.timberDeduction) {p q : Project Rat} (h : p.GrowsTo q) :
    (p.estimate pricing).AtMost (q.estimate (pricing.deducting timberDeduction)) ∧
    (pricing.HasPositiveRates → p.EnlargesQuoted q pricing →
      (p.estimate pricing).subtotal <
        (q.estimate (pricing.deducting timberDeduction)).subtotal) := by
  have hdeduction := h.deduction_le hpos hle
  have hrates := hpricing.toHasNonnegativeRates
  have hcost (a b : Opening Rat) (hab : a.Within b) :=
    hab.cost_le hdeduction hrates p.glazing timberDeduction
  rw [p.estimate_eq_breakdown, q.estimate_eq_breakdown, h.installation]
  constructor
  · apply hpricing.breakdown_atMost
    · unfold Project.subtotal
      rw [h.glazing]
      exact h.total_le hcost
    · exact h.total_le fun a b hab => hab.share_le hdeduction
  · rintro hpositive ⟨position, room, a, other, b, ha, hb, hquoted, hlonger⟩
    change p.subtotal pricing < q.subtotal (pricing.deducting timberDeduction)
    unfold Project.subtotal
    rw [h.glazing]
    exact h.total_lt hcost ha hb fun hab =>
      hab.cost_lt hdeduction hrates hpositive p.glazing timberDeduction hquoted hlonger

def Pricing.wholeRates : Pricing Rat where
  headRate := 1
  sillRate := 1
  jambRate := 1
  mullionRate := 1
  glassRate := 0
  powderCoatRate := 1
  glazingFactors := [(Glazing.toughened.key, 2)]
  hardwareCosts := [(Pane.awning.key, 80), (Pane.sliding.key, 70)]
  markupRatio := 2
  factoryCost := 750
  installCost := 800
  timberDeduction := 60

-- The timber frame leaves nothing of the second opening.
def Project.beforeGrowth : Project Rat where
  frame := .timber
  glazing := Glazing.toughened.key
  installation := true
  frameColour := none
  quoteName := none
  rooms := [⟨"Kitchen", [⟨"A-F", 1200, 900⟩, ⟨"S", 50, 700⟩]⟩]

def Project.afterGrowth : Project Rat :=
  { Project.beforeGrowth with rooms := [⟨"Kitchen", [⟨"A-F", 1300, 900⟩, ⟨"S", 90, 700⟩]⟩] }

theorem estimate_atMost_afterGrowth :
    (Project.beforeGrowth.workOrder 60).length = 1 ∧
      (Project.afterGrowth.workOrder 40).length = 2 ∧
      (Project.beforeGrowth.estimate .wholeRates).AtMost
        (Project.afterGrowth.estimate (Pricing.wholeRates.deducting 40)) ∧
      (Project.beforeGrowth.estimate .wholeRates).subtotal <
        (Project.afterGrowth.estimate (Pricing.wholeRates.deducting 40)).subtotal := by
  have hpricing : Pricing.wholeRates.IsNonnegative :=
    { headRate := by decide
      sillRate := by decide
      jambRate := by decide
      mullionRate := by decide
      glassRate := by decide
      powderCoatRate := by decide
      glazingFactors := by decide
      hardwareCosts := by decide
      markupRatio := by decide
      factoryCost := by decide
      installCost := by decide
      timberDeduction := by decide }
  have hrates : Pricing.wholeRates.HasPositiveRates :=
    ⟨by decide, by decide, by decide, by decide, by decide⟩
  have hgrows : Project.beforeGrowth.GrowsTo .afterGrowth :=
    { frame := .inl rfl
      glazing := rfl
      installation := rfl
      rooms := .cons
        (.cons ⟨rfl, by decide, by decide⟩ (.cons ⟨rfl, by decide, by decide⟩ .nil)) .nil }
  have henlarges : Project.beforeGrowth.EnlargesQuoted .afterGrowth .wholeRates :=
    ⟨⟨0, 0⟩, _, _, _, _, ⟨rfl, rfl⟩, ⟨rfl, rfl⟩, by decide +kernel, .inl (by decide)⟩
  obtain ⟨hatMost, hlt⟩ := estimate_atMost_of_growsTo hpricing (by decide : (0 : Rat) ≤ 40)
    (by decide) hgrows
  exact ⟨by decide +kernel, by decide +kernel, hatMost, hlt hrates henlarges⟩

end Fenestration
