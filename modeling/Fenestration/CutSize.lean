import Fenestration.Project

/-!
# Cut sizes and eligibility

A window is cut to the measured size of its opening, less what a timber frame takes on each axis.
An opening is left out of a quote when its measured size, or what remains of it, is not positive.
-/

namespace Fenestration

@[ext]
structure CutSize (α : Type) where
  width : α
  height : α
  deriving DecidableEq

/-- Why an opening is left out. -/
inductive Exclusion
  | unmeasured
  | consumed
  deriving DecidableEq

def Exclusion.message : Exclusion → String
  | .unmeasured => "missing or non-positive width/height"
  | .consumed => "non-positive after frame deduction"

variable {α : Type} [NatCast α]

-- What a frame takes on each axis, given what timber takes.
def Frame.deduction (timber : α) : Frame → α
  | .timber => timber
  | .aluminium => ((0 : Nat) : α)

def Opening.cutSize [Sub α] (opening : Opening α) (deduction : α) : CutSize α where
  width := opening.width - deduction
  height := opening.height - deduction

-- Why an opening with the given cut size is left out, if it is.
def Opening.exclusion? [LE α] [DecidableLE α] (opening : Opening α) (cut : CutSize α) :
    Option Exclusion :=
  let nothing : α := ((0 : Nat) : α)
  if opening.width ≤ nothing ∨ opening.height ≤ nothing then some .unmeasured
  else if cut.width ≤ nothing ∨ cut.height ≤ nothing then some .consumed
  else none

def Opening.quotedSize? [Sub α] [LE α] [DecidableLE α] (opening : Opening α) (deduction : α) :
    Option (CutSize α) :=
  let cut := opening.cutSize deduction
  if opening.exclusion? cut = none then some cut else none

end Fenestration
