import Fenestration.Estimate
import Fenestration.Proofs.Quote.QuotedOpenings
import Mathlib.Algebra.BigOperators.Group.List.Basic
import Mathlib.Algebra.Field.Rat

/-!
# Exact amounts

Over exact numbers the estimator's loop adds up what each opening is worth on its own, and the
project without rooms needs no case of its own.  Main statement: an estimate is the breakdown of a
sum and a count over all openings of all rooms (`estimate_eq_breakdown`).
-/

namespace Fenestration

/-! ## One opening -/

/-- What an opening adds to the subtotal: its material, if it is quoted. -/
def Opening.cost (opening : Opening Rat) (pricing : Pricing Rat) (glazing : String)
    (deduction : Rat) : Rat :=
  if opening.IsQuoted deduction then
    pricing.materialCost glazing (opening.cutSize deduction) (Layout.ofCode opening.style)
  else 0

/-- What an opening adds to the number of quoted openings. -/
def Opening.share (opening : Opening Rat) (deduction : Rat) : Nat :=
  if opening.IsQuoted deduction then 1 else 0

theorem Project.addOpening_eq_add (project : Project Rat) (pricing : Pricing Rat)
    (sum : RunningSum Rat) (entry : Entry Rat) :
    project.addOpening pricing sum entry =
      ⟨sum.cost + entry.opening.cost pricing project.glazing (project.deduction pricing),
        sum.count + entry.opening.share (project.deduction pricing)⟩ := by
  have hdeduction : project.frame.deduction pricing.timberDeduction = project.deduction pricing :=
    rfl
  unfold addOpening Opening.cost Opening.share
  rw [hdeduction]
  by_cases h : entry.opening.IsQuoted (project.deduction pricing)
  · rw [Opening.quotedSize?_of_isQuoted h, if_pos h, if_pos h]
  · rw [Opening.quotedSize?_of_not_isQuoted h, if_neg h, if_neg h, add_zero, add_zero]

-- The loop, started anywhere.
theorem Project.foldl_addOpening_eq_sum (project : Project Rat) (pricing : Pricing Rat)
    (entries : List (Entry Rat)) (sum : RunningSum Rat) :
    entries.foldl (project.addOpening pricing) sum =
      ⟨sum.cost + (entries.map fun entry =>
          entry.opening.cost pricing project.glazing (project.deduction pricing)).sum,
        sum.count + (entries.map fun entry =>
          entry.opening.share (project.deduction pricing)).sum⟩ := by
  induction entries generalizing sum with
  | nil => simp
  | cons entry rest ih =>
    rw [List.foldl_cons, ih, addOpening_eq_add]
    simp only [List.map_cons, List.sum_cons, add_assoc]

/-! ## All openings -/

/-- The sum over all openings of a project, room by room. -/
def Project.total {M : Type} [Add M] [Zero M] (project : Project Rat) (weight : Opening Rat → M) :
    M :=
  (project.rooms.map fun room => (room.openings.map weight).sum).sum

theorem Project.sum_entries {M : Type} [AddMonoid M] (project : Project Rat)
    (weight : Opening Rat → M) :
    (project.entries.map fun entry => weight entry.opening).sum = project.total weight := by
  have hroom (room : Room Rat) :
      (room.entries.map fun entry => weight entry.opening) = room.openings.map weight := by
    unfold Room.entries
    rw [List.map_map]
    calc _ = ((room.openings.zipIdx 1).map Prod.fst).map weight := by
          rw [List.map_map]
          rfl
      _ = room.openings.map weight := by rw [List.zipIdx_map_fst]
  unfold entries total
  rw [List.map_flatMap, List.flatMap_def, List.sum_flatten, List.map_map]
  simp only [hroom, Function.comp_def]

def Project.subtotal (project : Project Rat) (pricing : Pricing Rat) : Rat :=
  project.total fun opening =>
    opening.cost pricing project.glazing (project.deduction pricing)

def Project.quotedCount (project : Project Rat) (pricing : Pricing Rat) : Nat :=
  project.total fun opening => opening.share (project.deduction pricing)

/-- An estimate over exact numbers. -/
theorem Project.estimate_eq_breakdown (project : Project Rat) (pricing : Pricing Rat) :
    project.estimate pricing =
      pricing.breakdown project.installation (project.subtotal pricing)
        (project.quotedCount pricing) := by
  unfold estimate
  by_cases hrooms : project.rooms = []
  · have hsubtotal : project.subtotal pricing = 0 := by
      simp [subtotal, total, hrooms]
    have hcount : project.quotedCount pricing = 0 := by
      simp [quotedCount, total, hrooms]
    rw [if_pos (by simp [hrooms]), hsubtotal, hcount]
    simp [Breakdown.nothing, Pricing.breakdown]
  · unfold subtotal quotedCount
    rw [if_neg (by simpa using hrooms), foldl_addOpening_eq_sum, ← sum_entries, ← sum_entries,
      Nat.cast_zero, zero_add, Nat.zero_add]

end Fenestration
