import Fenestration.Pricing.Arguments
import Fenestration.Proofs.Loading.Shapes
import Fenestration.Proofs.Number.SpecialValues
import Fenestration.Proofs.Quote.QuotedOpenings

/-!
# The cut sizes of quoted openings

An opening is left out of a quote when a measured or a cut size is at most zero, which is not the
same as keeping what is positive: nan is neither.  Measured sizes are finite, but a pricing may
deduct anything for a timber frame, nan included.  Main statement: an opening of a loaded project is
quoted just if its measured size is positive and its cut size is positive or the deduction is nan
(`quoted_iff_isPositive_or_nan`).
-/

namespace Fenestration

open Binary64

/-- Both sides are greater than zero as doubles, so neither is nan. -/
def CutSize.IsPositive (cut : CutSize Binary64) : Prop :=
  cut.width.IsPositive ∧ cut.height.IsPositive

def Opening.IsSized (opening : Opening Binary64) : Prop :=
  opening.width.IsPositive ∧ opening.height.IsPositive

theorem Frame.deduction_eq_nan_iff {frame : Frame} {timber : Binary64} :
    frame.deduction timber = .nan ↔ frame = .timber ∧ timber = .nan := by
  cases frame with
  | timber => simp [deduction]
  | aluminium =>
    have hzero : ((0 : Nat) : Binary64) ≠ .nan := by
      rw [natCast_zero]
      exact ne_nan_of_isFinite rfl
    simp [deduction, hzero]

-- A size that is nan has no place on the number line, so it cannot be positive.
theorem CutSize.not_isPositive_nan : ¬ (⟨.nan, .nan⟩ : CutSize Binary64).IsPositive :=
  fun h => Binary64.not_isPositive_nan h.1

theorem Opening.cutSize_nan (opening : Opening Binary64) :
    opening.cutSize .nan = ⟨.nan, .nan⟩ := by
  rw [cutSize, sub_nan, sub_nan]

theorem Opening.isQuoted_iff_of_isFinite {opening : Opening Binary64}
    (hwidth : opening.width.isFinite = true) (hheight : opening.height.isFinite = true)
    (deduction : Binary64) :
    opening.IsQuoted deduction ↔
      opening.IsSized ∧ ((opening.cutSize deduction).IsPositive ∨ deduction = .nan) := by
  have hcutWidth : (opening.cutSize deduction).width = .nan ↔ deduction = .nan :=
    sub_eq_nan_iff hwidth
  have hcutHeight : (opening.cutSize deduction).height = .nan ↔ deduction = .nan :=
    sub_eq_nan_iff hheight
  rw [isQuoted_iff, not_le_zero_iff, not_le_zero_iff, not_le_zero_iff, not_le_zero_iff, hcutWidth,
    hcutHeight, IsSized, CutSize.IsPositive]
  have hwidth := ne_nan_of_isFinite hwidth
  have hheight := ne_nan_of_isFinite hheight
  tauto

theorem Project.IsMeasured.of_mem_entries {project : Project Binary64} (h : project.IsMeasured)
    {entry : Entry Binary64} (hentry : entry ∈ project.entries) :
    entry.opening.width.isFinite = true ∧ entry.opening.height.isFinite = true := by
  obtain ⟨room, hroom, hentry⟩ := List.mem_flatMap.mp hentry
  obtain ⟨⟨opening, number⟩, hopening, rfl⟩ := List.mem_map.mp hentry
  exact h room hroom opening (List.fst_mem_of_mem_zipIdx hopening)

theorem Project.IsMeasured.quotedSize?_eq_some_iff {project : Project Binary64}
    (h : project.IsMeasured) {entry : Entry Binary64} (hentry : entry ∈ project.entries)
    (deduction : Binary64) (cut : CutSize Binary64) :
    entry.opening.quotedSize? deduction = some cut ↔
      cut = entry.opening.cutSize deduction ∧ entry.opening.IsSized ∧
        (cut.IsPositive ∨ deduction = .nan) := by
  obtain ⟨hwidth, hheight⟩ := h.of_mem_entries hentry
  rw [Opening.quotedSize?_eq_some_iff, Opening.isQuoted_iff_of_isFinite hwidth hheight, and_comm,
    eq_comm]
  exact and_congr_right fun hcut => by rw [hcut]

-- Jobs are made of quoted openings alone, each at the size that it is quoted at.
theorem Project.exists_entry_of_mem_workOrder {project : Project Binary64}
    {timberDeduction : Binary64} {job : Job Binary64}
    (h : job ∈ project.workOrder timberDeduction) :
    ∃ entry ∈ project.entries,
      entry.opening.quotedSize? (project.frame.deduction timberDeduction) = some job.cut := by
  obtain ⟨entry, hentry, hsome⟩ := List.mem_filterMap.mp h
  obtain ⟨cut, hcut, rfl⟩ := Option.map_eq_some_iff.mp hsome
  exact ⟨entry, hentry, hcut⟩

/-- **Quoted sizes are positive unless the deduction is nan.**  An opening of a loaded project is
quoted just if its measured size is positive and what the frame leaves of it is positive too, or the
deduction is nan; only a timber frame takes such a deduction, and then every job is cut to nan. -/
theorem quoted_iff_isPositive_or_nan {fields : Json.Fields} {project : Project Binary64}
    (hload : Project.load fields = .ok project) (pricing : Pricing Binary64) :
    (project.deduction pricing = .nan ↔
      project.frame = .timber ∧ pricing.timberDeduction = .nan) ∧
    (∀ entry ∈ project.entries, ∀ cut,
      entry.opening.quotedSize? (project.deduction pricing) = some cut ↔
        cut = entry.opening.cutSize (project.deduction pricing) ∧ entry.opening.IsSized ∧
          (cut.IsPositive ∨ project.deduction pricing = .nan)) ∧
    (∀ job ∈ project.workOrder pricing.timberDeduction,
      (project.deduction pricing ≠ .nan → job.cut.IsPositive) ∧
      (project.deduction pricing = .nan → job.cut = ⟨.nan, .nan⟩)) := by
  have hmeasured := (Loading.isFrom_of_load hload).isMeasured
  refine ⟨Frame.deduction_eq_nan_iff, fun entry hentry cut => ?_, fun job hjob => ?_⟩
  · exact hmeasured.quotedSize?_eq_some_iff hentry _ cut
  · obtain ⟨entry, hentry, hcut⟩ := Project.exists_entry_of_mem_workOrder hjob
    obtain ⟨hsize, -, hpositive⟩ := (hmeasured.quotedSize?_eq_some_iff hentry _ _).mp hcut
    refine ⟨hpositive.resolve_right, fun hnan => ?_⟩
    have hnan' : project.frame.deduction pricing.timberDeduction = .nan := hnan
    rw [hsize, hnan', Opening.cutSize_nan]

-- A request for one window in a timber frame.
def kitchenFields : Json.Fields :=
  [("existingFrame", .text "timber"),
    ("rooms", .list [.object [("name", .text "Kitchen"),
      ("windows", .list [.object [("style", .text "F"), ("width", .integer 1000),
        ("height", .integer 1000)]])]])]

def kitchen : Project Binary64 where
  frame := .timber
  glazing := ""
  installation := false
  frameColour := none
  quoteName := none
  rooms := [⟨"Kitchen", [⟨"F", 1000, 1000⟩]⟩]

theorem load_kitchenFields : Project.load kitchenFields = .ok kitchen := by
  decide +kernel

theorem quoted_iff_isPositive_or_nan_kitchen :
    Project.load kitchenFields = .ok kitchen ∧
      ∀ job ∈ kitchen.workOrder Pricing.standard.timberDeduction, job.cut.IsPositive := by
  obtain ⟨-, -, hjobs⟩ := quoted_iff_isPositive_or_nan load_kitchenFields .standard
  have hne : kitchen.deduction .standard ≠ .nan := by decide +kernel
  refine ⟨load_kitchenFields, fun job hjob => ?_⟩
  exact (hjobs job hjob).1 hne

-- A pricing accepts the word nan as a deduction, and then the window is made to no size.
theorem kitchen_quoted_without_cut_size :
    ∃ pricing, Pricing.ofArguments [("timber_deduction_mm", .text "nan")] = .ok pricing ∧
      Project.load kitchenFields = .ok kitchen ∧
      ∃ job ∈ kitchen.workOrder pricing.timberDeduction,
        job.opening.quotedSize? (kitchen.deduction pricing) = some job.cut ∧
          ¬ job.cut.IsPositive := by
  let entry : Entry Binary64 := ⟨"Kitchen", 1, ⟨"F", 1000, 1000⟩⟩
  refine ⟨{ Pricing.standard with timberDeduction := .nan }, by decide +kernel, load_kitchenFields,
    entry.job kitchen.glazing ⟨.nan, .nan⟩, by decide +kernel, by decide +kernel, ?_⟩
  exact CutSize.not_isPositive_nan

end Fenestration
