import Fenestration.Cost

/-!
# Estimates

An estimate adds up the material cost of every opening that is part of the quote and counts these
openings; the other amounts follow from that sum and that count.
-/

namespace Fenestration

@[ext]
structure Breakdown (α : Type) where
  subtotal : α
  markup : α
  factory : α
  base : α
  install : α
  final : α
  deriving DecidableEq

-- The breakdown of four amounts; base and final are always derived.
def Breakdown.ofAmounts {α : Type} [Add α] (subtotal markup factory install : α) : Breakdown α where
  subtotal := subtotal
  markup := markup
  factory := factory
  base := subtotal + markup + factory
  install := install
  final := subtotal + markup + factory + install

def Breakdown.nothing {α : Type} [Add α] [NatCast α] : Breakdown α :=
  .ofAmounts ((0 : Nat) : α) ((0 : Nat) : α) ((0 : Nat) : α) ((0 : Nat) : α)

variable {α : Type} [Add α] [Sub α] [Mul α] [Div α] [NatCast α] [LE α] [DecidableLE α]

/-- The breakdown of `count` openings whose materials cost `subtotal`.  The markup ratio is the
total over the materials, so only what exceeds one is markup. -/
def Pricing.breakdown (pricing : Pricing α) (installation : Bool) (subtotal : α) (count : Nat) :
    Breakdown α :=
  .ofAmounts subtotal
    (subtotal * (pricing.markupRatio - ((1 : Nat) : α)))
    ((count : α) * pricing.factoryCost)
    (if installation then (count : α) * pricing.installCost else ((0 : Nat) : α))

structure RunningSum (α : Type) where
  cost : α
  count : Nat

def Project.addOpening (project : Project α) (pricing : Pricing α) (sum : RunningSum α)
    (entry : Entry α) : RunningSum α :=
  match entry.opening.quotedSize? (project.frame.deduction pricing.timberDeduction) with
  | none => sum
  | some cut =>
      let layout := Layout.ofCode entry.opening.style
      ⟨sum.cost + pricing.materialCost project.glazing cut layout, sum.count + 1⟩

-- The price of a project; a project without rooms costs nothing.
def Project.estimate (project : Project α) (pricing : Pricing α) : Breakdown α :=
  if project.rooms.isEmpty then .nothing
  else
    let sum := project.entries.foldl (project.addOpening pricing) ⟨((0 : Nat) : α), 0⟩
    pricing.breakdown project.installation sum.cost sum.count

end Fenestration
