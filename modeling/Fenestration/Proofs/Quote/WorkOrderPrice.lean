import Fenestration.Estimate
import Fenestration.Proofs.Quote.QuotedOpenings

/-!
# The price of a work order

A work order holds for each job its cut size and its style code, so a quote can be priced again
from the work order alone.  The estimator does not look at the work order: it walks over the
entries itself, with a running sum and a count.  Main statement: both ways give the same breakdown
(`estimate_eq_workOrderBreakdown`), whatever the numbers are, so over doubles to the last bit.
-/

namespace Fenestration

variable {α : Type} [Add α] [Sub α] [Mul α] [Div α] [NatCast α] [LE α] [DecidableLE α]

def Pricing.jobCost (pricing : Pricing α) (glazing : String) (job : Job α) : α :=
  pricing.materialCost glazing job.cut (Layout.ofCode job.opening.style)

def Pricing.addJobs (pricing : Pricing α) (glazing : String) (cost : α) (jobs : List (Job α)) : α :=
  jobs.foldl (fun sum job => sum + pricing.jobCost glazing job) cost

/-- The breakdown of a work order. -/
def Pricing.workOrderBreakdown (pricing : Pricing α) (glazing : String) (installation : Bool)
    (jobs : List (Job α)) : Breakdown α :=
  let subtotal := pricing.addJobs glazing ((0 : Nat) : α) jobs
  .ofAmounts subtotal
    (subtotal * (pricing.markupRatio - ((1 : Nat) : α)))
    ((jobs.length : α) * pricing.factoryCost)
    (if installation then (jobs.length : α) * pricing.installCost else ((0 : Nat) : α))

def Project.job? (project : Project α) (timberDeduction : α) (entry : Entry α) : Option (Job α) :=
  (entry.opening.quotedSize? (project.frame.deduction timberDeduction)).map
    (entry.job project.glazing)

-- One step of the estimator adds exactly what one step of the planner appends.
theorem Project.addOpening_eq (project : Project α) (pricing : Pricing α) (sum : RunningSum α)
    (entry : Entry α) :
    project.addOpening pricing sum entry =
      match project.job? pricing.timberDeduction entry with
      | none => sum
      | some job => ⟨sum.cost + pricing.jobCost project.glazing job, sum.count + 1⟩ := by
  rw [addOpening, job?]
  cases entry.opening.quotedSize? (project.frame.deduction pricing.timberDeduction) with
  | none => rfl
  | some cut => rfl

-- The estimator's loop, started anywhere: its sum and its count are those of the jobs that the
-- planner makes of the same entries.
theorem Project.foldl_addOpening (project : Project α) (pricing : Pricing α)
    (entries : List (Entry α)) (sum : RunningSum α) :
    entries.foldl (project.addOpening pricing) sum =
      ⟨pricing.addJobs project.glazing sum.cost
          (entries.filterMap (project.job? pricing.timberDeduction)),
        sum.count + (entries.filterMap (project.job? pricing.timberDeduction)).length⟩ := by
  induction entries generalizing sum with
  | nil => rfl
  | cons entry rest ih =>
    rw [List.foldl_cons, ih, List.filterMap_cons, addOpening_eq]
    cases project.job? pricing.timberDeduction entry with
    | none => rfl
    | some job =>
      simp only [List.length_cons]
      rw [Nat.add_right_comm, Nat.add_assoc]
      rfl

theorem Project.estimate_of_rooms (project : Project α) (pricing : Pricing α)
    (h : project.rooms ≠ []) :
    project.estimate pricing =
      pricing.workOrderBreakdown project.glazing project.installation
        (project.workOrder pricing.timberDeduction) := by
  have hrooms : project.rooms.isEmpty = false := by simpa using h
  rw [estimate, if_neg (by simp [hrooms]), foldl_addOpening, Nat.zero_add]
  rfl

theorem Breakdown.nothing_eq : (nothing : Breakdown Binary64) = ⟨0, 0, 0, 0, 0, 0⟩ := by
  decide +kernel

/-- **Estimate and work order agree.**  The estimate of a project with rooms is the breakdown of its
work order; a project without rooms has an empty work order and costs nothing. -/
theorem estimate_eq_workOrderBreakdown (pricing : Pricing Binary64) (project : Project Binary64) :
    (project.rooms ≠ [] →
      project.estimate pricing =
        pricing.workOrderBreakdown project.glazing project.installation
          (project.workOrder pricing.timberDeduction)) ∧
    (project.rooms = [] →
      project.workOrder pricing.timberDeduction = [] ∧
        project.estimate pricing = ⟨0, 0, 0, 0, 0, 0⟩) := by
  refine ⟨project.estimate_of_rooms pricing, fun h => ⟨?_, ?_⟩⟩
  · rw [Project.workOrder, Project.entries, h, List.flatMap_nil, List.filterMap_nil]
  · rw [Project.estimate, if_pos (by simp [h]), Breakdown.nothing_eq]

end Fenestration
