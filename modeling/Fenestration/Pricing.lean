import Fenestration.Glazing
import Fenestration.Number.Decimal
import Fenestration.Pane

/-!
# Pricings

A pricing holds every figure that a quote is computed from: rates per millimetre and square
millimetre, two tables, and figures per opening.  The figures of `Pricing.standard` are supplier
invoices, a line's price divided by the length it bought.
-/

namespace Fenestration

-- Amounts under text keys, in the order in which they were given.
abbrev Table (α : Type) := List (String × α)

-- What holds of every amount in a table and of the default holds of any that is looked up.
theorem Table.getD_lookup {α : Type} {P : α → Prop} {table : Table α}
    (h : ∀ row ∈ table, P row.2) (key : String) {default : α} (hdefault : P default) :
    P ((table.lookup key).getD default) := by
  cases hkey : table.lookup key with
  | none => exact hdefault
  | some value =>
    obtain ⟨before, after, rfl, -⟩ := List.lookup_eq_some_iff.mp hkey
    exact h (key, value) (by simp)

/-- The figures that a quote is computed from. -/
structure Pricing (α : Type) where
  headRate : α
  sillRate : α
  jambRate : α
  mullionRate : α
  glassRate : α
  powderCoatRate : α
  glazingFactors : Table α
  hardwareCosts : Table α
  markupRatio : α
  factoryCost : α
  installCost : α
  timberDeduction : α
  deriving DecidableEq

namespace Pricing

variable {α : Type} [NatCast α]

-- The factor on glass; a glazing that the table does not hold has factor one.
def glazingFactor (pricing : Pricing α) (glazing : Option String) : α :=
  (glazing.bind fun key => pricing.glazingFactors.lookup key).getD ((1 : Nat) : α)

-- The hardware of one pane; an unknown pane carries none, whatever the table holds.
def hardwareCost (pricing : Pricing α) : Pane → α
  | .unknown => ((0 : Nat) : α)
  | pane => (pricing.hardwareCosts.lookup pane.key).getD ((0 : Nat) : α)

def standard : Pricing Binary64 where
  headRate := 5.63 / 506
  sillRate := 6.69 / 506
  jambRate := 31.47 / (2 * 1781)
  mullionRate := 31.47 / (2 * 1781)
  glassRate := 32.26 / (1675.1 * 428)
  powderCoatRate := (2.17 + 2.17 + 15.27) / (506 + 506 + (2 * 1781))
  glazingFactors :=
    [(Glazing.single.key, 1.0), (Glazing.toughened.key, 1.4), (Glazing.double.key, 1.8),
      (Glazing.acoustic.key, 2.2)]
  hardwareCosts :=
    [(Pane.awning.key, 80.83 + 1.94 + (0.53 + 1.84) + (0.39 + 1.36)), (Pane.sliding.key, 70),
      (Pane.fixed.key, 5)]
  markupRatio := 436.568 / 208.79
  factoryCost := 750
  installCost := 800
  timberDeduction := 60

-- Two tables hold the same numbers under the same keys, in whatever order.
def sameTable (a b : Table Binary64) : Bool :=
  a.length == b.length &&
    a.all fun (key, value) => (b.lookup key).any value.sameNumber

def sameFigures (a b : Pricing Binary64) : Bool :=
  a.headRate.sameNumber b.headRate && a.sillRate.sameNumber b.sillRate &&
    a.jambRate.sameNumber b.jambRate && a.mullionRate.sameNumber b.mullionRate &&
    a.glassRate.sameNumber b.glassRate && a.powderCoatRate.sameNumber b.powderCoatRate &&
    sameTable a.glazingFactors b.glazingFactors && sameTable a.hardwareCosts b.hardwareCosts &&
    a.markupRatio.sameNumber b.markupRatio && a.factoryCost.sameNumber b.factoryCost &&
    a.installCost.sameNumber b.installCost && a.timberDeduction.sameNumber b.timberDeduction

end Pricing

end Fenestration
