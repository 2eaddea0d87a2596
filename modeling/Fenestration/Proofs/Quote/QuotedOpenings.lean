import Fenestration.Pricing
import Fenestration.WorkOrder

/-!
# The openings of a quote

Both an estimate and a work order walk over all entries of a project and leave out those whose
opening is excluded.  Here the entries that stay are a list of their own, `Project.quotedEntries`,
and the work order is a plain map over it (`workOrder_eq_map`).
-/

namespace Fenestration

variable {α : Type} [NatCast α] [Sub α] [LE α] [DecidableLE α]

/-- An opening is quoted if nothing excludes it at its cut size. -/
def Opening.IsQuoted (opening : Opening α) (deduction : α) : Prop :=
  opening.exclusion? (opening.cutSize deduction) = none

instance (opening : Opening α) (deduction : α) : Decidable (opening.IsQuoted deduction) :=
  inferInstanceAs (Decidable (_ = _))

-- What the frame of a project takes on each axis under a pricing.
def Project.deduction (project : Project α) (pricing : Pricing α) : α :=
  project.frame.deduction pricing.timberDeduction

def Project.quotedEntries (project : Project α) (timberDeduction : α) : List (Entry α) :=
  project.entries.filter fun entry =>
    entry.opening.IsQuoted (project.frame.deduction timberDeduction)

def Project.quotedOpenings (project : Project α) (timberDeduction : α) : List (Opening α) :=
  (project.entries.map Entry.opening).filter fun opening =>
    opening.IsQuoted (project.frame.deduction timberDeduction)

theorem Opening.quotedSize?_of_isQuoted {opening : Opening α} {deduction : α}
    (h : opening.IsQuoted deduction) :
    opening.quotedSize? deduction = some (opening.cutSize deduction) :=
  if_pos h

theorem Opening.quotedSize?_of_not_isQuoted {opening : Opening α} {deduction : α}
    (h : ¬ opening.IsQuoted deduction) : opening.quotedSize? deduction = none :=
  if_neg h

theorem Opening.isQuoted_iff {opening : Opening α} {deduction : α} :
    opening.IsQuoted deduction ↔
      (¬ opening.width ≤ ((0 : Nat) : α) ∧ ¬ opening.height ≤ ((0 : Nat) : α)) ∧
      ¬ (opening.cutSize deduction).width ≤ ((0 : Nat) : α) ∧
      ¬ (opening.cutSize deduction).height ≤ ((0 : Nat) : α) := by
  rw [IsQuoted, exclusion?, ← not_or, ← not_or]
  split <;> simp_all

theorem Opening.quotedSize?_eq_some_iff {opening : Opening α} {deduction : α} {cut : CutSize α} :
    opening.quotedSize? deduction = some cut ↔
      opening.IsQuoted deduction ∧ opening.cutSize deduction = cut := by
  by_cases h : opening.IsQuoted deduction
  · simp [quotedSize?_of_isQuoted h, h]
  · simp [quotedSize?_of_not_isQuoted h, h]

theorem Project.quotedOpenings_eq_map (project : Project α) (timberDeduction : α) :
    project.quotedOpenings timberDeduction =
      (project.quotedEntries timberDeduction).map Entry.opening := by
  rw [quotedOpenings, quotedEntries, List.filter_map]
  rfl

-- Work orders are made entry by entry, from the quoted entries alone.
theorem Project.workOrder_eq_map [Div α] (project : Project α) (timberDeduction : α) :
    project.workOrder timberDeduction =
      (project.quotedEntries timberDeduction).map fun entry =>
        entry.job project.glazing
          (entry.opening.cutSize (project.frame.deduction timberDeduction)) := by
  rw [workOrder, quotedEntries]
  generalize project.frame.deduction timberDeduction = deduction
  induction project.entries with
  | nil => rfl
  | cons entry rest ih =>
    by_cases h : entry.opening.IsQuoted deduction
    · rw [List.filterMap_cons, List.filter_cons_of_pos (by simpa using h), List.map_cons,
        Opening.quotedSize?_of_isQuoted h, ← ih]
      rfl
    · rw [List.filterMap_cons, List.filter_cons_of_neg (by simpa using h),
        Opening.quotedSize?_of_not_isQuoted h, ← ih]
      rfl

end Fenestration
