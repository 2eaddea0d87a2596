import Fenestration.Proofs.Document.Copies
import Fenestration.Proofs.Number.SpecialValues

/-!
# Where a pricing shows

Of a pricing, production needs the timber deduction, and that only for a timber frame.  No other
figure may show in a work order or in the production copy; in the copies with a price it shows in
one section.  Main statement: `pricing_shows_in_price_alone`, about any two pricings of a project.
-/

namespace Fenestration

open Binary64

/-! ## Deductions -/

/-- Deductions of one size: the same double, or zeros that differ in their sign. -/
def Binary64.SameSize (x y : Binary64) : Prop :=
  x = y ∨ x.sameNumber y = true

theorem Opening.quotedSize?_zero (opening : Opening Binary64) (a b : Bool) :
    opening.quotedSize? (zero a) = opening.quotedSize? (zero b) := by
  by_cases hmeasured : ¬ opening.width ≤ ((0 : Nat) : Binary64) ∧
      ¬ opening.height ≤ ((0 : Nat) : Binary64)
  · -- A measured size is no zero, so it stays what it is.
    have hcut (negative : Bool) :
        opening.cutSize (zero negative) = ⟨opening.width, opening.height⟩ := by
      unfold cutSize
      rw [sub_zero_of_not_le_zero hmeasured.1, sub_zero_of_not_le_zero hmeasured.2]
    unfold quotedSize?
    rw [hcut a, hcut b]
  · have hout (negative : Bool) : ¬ opening.IsQuoted (zero negative) :=
      fun hquoted => hmeasured (isQuoted_iff.mp hquoted).1
    rw [quotedSize?_of_not_isQuoted (hout a), quotedSize?_of_not_isQuoted (hout b)]

theorem Opening.quotedSize?_eq_of_sameSize (opening : Opening Binary64) {d e : Binary64}
    (h : d.SameSize e) : opening.quotedSize? d = opening.quotedSize? e := by
  have hcases : d = e ∨ d.IsZero ∧ e.IsZero := by
    rcases h with heq | hsame
    · exact .inl heq
    · exact eq_or_isZero_of_sameNumber hsame
  rcases hcases with rfl | ⟨⟨a, rfl⟩, b, rfl⟩
  · rfl
  · exact opening.quotedSize?_zero a b

theorem Frame.deduction_sameSize {frame : Frame} {d e : Binary64}
    (h : frame = .timber → d.SameSize e) : (frame.deduction d).SameSize (frame.deduction e) := by
  cases frame with
  | timber => exact h rfl
  | aluminium => exact .inl rfl

theorem Project.workOrder_eq_of_sameSize (project : Project Binary64) {d e : Binary64}
    (h : project.frame = .timber → d.SameSize e) : project.workOrder d = project.workOrder e := by
  unfold workOrder
  simp only [Opening.quotedSize?_eq_of_sameSize _ (Frame.deduction_sameSize h)]

/-! ## Documents -/

/-- The documents differ at most in one section, that of the price, and there at most in the rows
and in the amount of the total. -/
structure Document.AgreesButPrice (a b : Document) : Prop where
  kind : a.kind = b.kind
  quoteName : a.quoteName = b.quoteName
  sections : ∃ front price rows amount back, price.title = "Price Breakdown" ∧
    a.sections = front ++ price :: back ∧
    b.sections = front ++
      { price with
        rows := rows
        total := price.total.map fun total => { total with amount := amount } } :: back

theorem Project.agreesButPrice (project : Project Binary64) (p q : Pricing Binary64)
    {kind : DocumentKind} (hkind : kind ≠ .production) :
    (project.document p kind).AgreesButPrice (project.document q kind) where
  kind := rfl
  quoteName := rfl
  sections := by
    refine ⟨project.overviewSection :: project.rooms.map Room.scheduleSection,
      (project.estimate p).priceSection kind, (project.estimate q).priceRows,
      currencyText (project.estimate q).final, [termsSection], rfl, ?_, ?_⟩
    · exact project.sections_priced p hkind
    · exact project.sections_priced q hkind

/-- **Prices show in the price section alone.**  Under two pricings a project has the same work
order and the same production copy, unless its frame is timber and they deduct differently for it;
its customer and sales copies differ at most in the rows and the total of the price section. -/
theorem pricing_shows_in_price_alone (project : Project Binary64) (p q : Pricing Binary64) :
    ((project.frame = .timber → p.timberDeduction.SameSize q.timberDeduction) →
      project.workOrder p.timberDeduction = project.workOrder q.timberDeduction ∧
      project.document p .production = project.document q .production) ∧
    ∀ kind ≠ DocumentKind.production,
      (project.document p kind).AgreesButPrice (project.document q kind) := by
  refine ⟨fun hsame => ?_, fun kind hkind => project.agreesButPrice p q hkind⟩
  have hjobs := project.workOrder_eq_of_sameSize hsame
  refine ⟨hjobs, ?_⟩
  apply Document.ext
  · rfl
  · rfl
  · rw [project.sections_production, project.sections_production, hjobs]

-- Materials alone, at the standard rates.
def Pricing.atCost : Pricing Binary64 :=
  { Pricing.standard with
    markupRatio := 1
    factoryCost := 0
    installCost := 0
    timberDeduction := 60 }

theorem pricing_shows_withGaps :
    Project.withGaps.frame = .timber ∧
      Project.withGaps.document .standard .production =
        Project.withGaps.document .atCost .production ∧
      (Project.withGaps.estimate .standard).factory ≠
        (Project.withGaps.estimate .atCost).factory := by
  obtain ⟨hproduction, -⟩ := pricing_shows_in_price_alone .withGaps .standard .atCost
  exact ⟨rfl, (hproduction fun _ => .inl rfl).2, by decide +kernel⟩

end Fenestration
