import Fenestration.Proofs.Number.ExactPlaces
import Fenestration.Proofs.Quote.BiggerJobs

/-!
# The same openings in timber

Over exact numbers a timber frame does nothing but take its deduction on each axis.  If every
opening is measured larger by that much, the same sizes are left to cut, and an opening is quoted
from the same sizes on in both frames.  Main statement: the two projects have the same price and,
measured sizes apart, the same work order (`quote_eq_of_inTimber`).
-/

namespace Fenestration

/-! ## Enlarged openings -/

def Opening.enlarged (opening : Opening Rat) (amount : Rat) : Opening Rat :=
  { opening with width := opening.width + amount, height := opening.height + amount }

def Room.enlarged (room : Room Rat) (amount : Rat) : Room Rat :=
  { room with openings := room.openings.map fun opening => opening.enlarged amount }

def Entry.enlarged (entry : Entry Rat) (amount : Rat) : Entry Rat :=
  { entry with opening := entry.opening.enlarged amount }

-- The same work for an opening of a larger measured size.
def Job.enlarged (job : Job Rat) (amount : Rat) : Job Rat :=
  { job with opening := job.opening.enlarged amount }

/-- The second project is the first, which is in aluminium, in a timber frame, with every opening
measured larger by the deduction. -/
structure Project.InTimber (plain timber : Project Rat) (deduction : Rat) : Prop where
  plain_frame : plain.frame = .aluminium
  timber_frame : timber.frame = .timber
  glazing : timber.glazing = plain.glazing
  installation : timber.installation = plain.installation
  rooms : timber.rooms = plain.rooms.map fun room => room.enlarged deduction

/-! ## What production reads -/

def CutItem.exactRow (item : CutItem Rat) : List String :=
  [item.component.text, exactMillimetreText item.length, natText item.quantity]

def GlassPane.exactRow (glass : GlassPane Rat) : List String :=
  [glass.identifier, glass.pane.label, exactMillimetreText glass.width,
    exactMillimetreText glass.height, glass.glazing]

-- The display texts of a job.
def Job.exactRows (job : Job Rat) : List (List String) :=
  job.cuttingList.map CutItem.exactRow ++ job.glassSchedule.map GlassPane.exactRow

/-! ## One opening -/

namespace Opening

theorem cutSize_enlarged (opening : Opening Rat) (deduction : Rat) :
    (opening.enlarged deduction).cutSize deduction = opening.cutSize ((0 : Nat) : Rat) := by
  unfold cutSize enlarged
  rw [Nat.cast_zero, add_sub_cancel_right, add_sub_cancel_right, sub_zero, sub_zero]

-- A size that is not positive stays with the deduction or below, and that is taken off again.
theorem isQuoted_enlarged_iff {opening : Opening Rat} {deduction : Rat} (h : 0 ≤ deduction) :
    (opening.enlarged deduction).IsQuoted deduction ↔ opening.IsQuoted ((0 : Nat) : Rat) := by
  have hwidth : (opening.cutSize ((0 : Nat) : Rat)).width = opening.width := by
    simp [cutSize]
  have hheight : (opening.cutSize ((0 : Nat) : Rat)).height = opening.height := by
    simp [cutSize]
  rw [isQuoted_iff, isQuoted_iff, cutSize_enlarged, hwidth, hheight, Nat.cast_zero]
  simp only [enlarged, not_le]
  constructor
  · rintro ⟨-, hpos⟩
    exact ⟨hpos, hpos⟩
  · rintro ⟨⟨hwidthPos, hheightPos⟩, -⟩
    exact ⟨⟨by linarith, by linarith⟩, hwidthPos, hheightPos⟩

theorem quotedSize?_enlarged {deduction : Rat} (h : 0 ≤ deduction) (opening : Opening Rat) :
    (opening.enlarged deduction).quotedSize? deduction =
      opening.quotedSize? ((0 : Nat) : Rat) := by
  by_cases hquoted : opening.IsQuoted ((0 : Nat) : Rat)
  · rw [quotedSize?_of_isQuoted hquoted,
      quotedSize?_of_isQuoted ((isQuoted_enlarged_iff h).mpr hquoted), cutSize_enlarged]
  · rw [quotedSize?_of_not_isQuoted hquoted,
      quotedSize?_of_not_isQuoted (mt (isQuoted_enlarged_iff h).mp hquoted)]

theorem share_enlarged {deduction : Rat} (h : 0 ≤ deduction) (opening : Opening Rat) :
    (opening.enlarged deduction).share deduction = opening.share ((0 : Nat) : Rat) := by
  unfold share
  simp only [isQuoted_enlarged_iff h]

theorem cost_enlarged {deduction : Rat} (h : 0 ≤ deduction) (opening : Opening Rat)
    (pricing : Pricing Rat) (glazing : String) :
    (opening.enlarged deduction).cost pricing glazing deduction =
      opening.cost pricing glazing ((0 : Nat) : Rat) := by
  unfold cost
  simp only [isQuoted_enlarged_iff h, cutSize_enlarged]
  rfl

end Opening

/-! ## Projects -/

namespace Project.InTimber

variable {plain timber : Project Rat} {deduction : Rat} (h : plain.InTimber timber deduction)
include h

theorem total_eq {M : Type} [Add M] [Zero M] {f g : Opening Rat → M}
    (hweight : ∀ opening : Opening Rat, g (opening.enlarged deduction) = f opening) :
    timber.total g = plain.total f := by
  unfold total
  rw [h.rooms, List.map_map]
  congr 1
  apply List.map_congr_left
  intro room _
  have hopenings : ((room.enlarged deduction).openings.map g) = room.openings.map f := by
    unfold Room.enlarged
    rw [List.map_map]
    exact List.map_congr_left fun opening _ => hweight opening
  exact congrArg List.sum hopenings

theorem entries_eq : timber.entries = plain.entries.map fun entry => entry.enlarged deduction := by
  unfold entries
  rw [h.rooms, List.flatMap_map, List.map_flatMap]
  apply List.flatMap_congr
  intro room _
  unfold Room.entries Room.enlarged
  rw [List.zipIdx_map, List.map_map, List.map_map]
  rfl

theorem holds_iff {position : Position} {opening : Opening Rat} :
    (∃ room, timber.Holds position room opening) ↔
      ∃ room other, plain.Holds position room other ∧ opening = other.enlarged deduction := by
  constructor
  · rintro ⟨room, hroom, hopening⟩
    rw [h.rooms, List.getElem?_map, Option.map_eq_some_iff] at hroom
    obtain ⟨other, hother, rfl⟩ := hroom
    unfold Room.enlarged at hopening
    rw [List.getElem?_map, Option.map_eq_some_iff] at hopening
    obtain ⟨before, hbefore, rfl⟩ := hopening
    exact ⟨other, before, ⟨hother, hbefore⟩, rfl⟩
  · rintro ⟨room, other, ⟨hroom, hother⟩, rfl⟩
    refine ⟨room.enlarged deduction, ?_, ?_⟩
    · rw [h.rooms, List.getElem?_map, hroom, Option.map_some]
    · unfold Room.enlarged
      rw [List.getElem?_map, hother, Option.map_some]

variable {pricing : Pricing Rat}

omit h in
theorem deductions (h : plain.InTimber timber pricing.timberDeduction) :
    timber.deduction pricing = pricing.timberDeduction ∧
      plain.deduction pricing = ((0 : Nat) : Rat) := by
  unfold Project.deduction
  rw [h.timber_frame, h.plain_frame]
  exact ⟨rfl, rfl⟩

end Project.InTimber

section Quotes

variable {plain timber : Project Rat} {pricing : Pricing Rat}
  (h : plain.InTimber timber pricing.timberDeduction) (hpos : 0 ≤ pricing.timberDeduction)
include h hpos

theorem Project.InTimber.quotes_iff (position : Position) :
    (∃ room opening, timber.Holds position room opening ∧
      opening.IsQuoted (timber.deduction pricing)) ↔
    ∃ room opening, plain.Holds position room opening ∧
      opening.IsQuoted (plain.deduction pricing) := by
  obtain ⟨htimber, hplain⟩ := h.deductions
  rw [htimber, hplain]
  constructor
  · rintro ⟨room, opening, hholds, hquoted⟩
    obtain ⟨other, before, hbefore, rfl⟩ := h.holds_iff.mp ⟨room, hholds⟩
    exact ⟨other, before, hbefore, (Opening.isQuoted_enlarged_iff hpos).mp hquoted⟩
  · rintro ⟨room, opening, hholds, hquoted⟩
    obtain ⟨other, hother⟩ := h.holds_iff.mpr ⟨room, opening, hholds, rfl⟩
    exact ⟨other, _, hother, (Opening.isQuoted_enlarged_iff hpos).mpr hquoted⟩

theorem Project.InTimber.estimate_eq : timber.estimate pricing = plain.estimate pricing := by
  obtain ⟨htimber, hplain⟩ := h.deductions
  have hsubtotal : timber.subtotal pricing = plain.subtotal pricing := by
    unfold subtotal
    rw [htimber, hplain, h.glazing]
    exact h.total_eq fun opening => opening.cost_enlarged hpos pricing plain.glazing
  have hcount : timber.quotedCount pricing = plain.quotedCount pricing := by
    unfold quotedCount
    rw [htimber, hplain]
    exact h.total_eq fun opening => opening.share_enlarged hpos
  rw [estimate_eq_breakdown, estimate_eq_breakdown, hsubtotal, hcount, h.installation]

theorem Project.InTimber.workOrder_eq :
    timber.workOrder pricing.timberDeduction =
      (plain.workOrder pricing.timberDeduction).map fun job =>
        job.enlarged pricing.timberDeduction := by
  have hplain : plain.frame.deduction pricing.timberDeduction = ((0 : Nat) : Rat) := h.deductions.2
  have htimber : timber.frame.deduction pricing.timberDeduction = pricing.timberDeduction :=
    h.deductions.1
  unfold workOrder
  rw [h.entries_eq, List.filterMap_map, List.map_filterMap, hplain, htimber, h.glazing]
  congr 1
  funext entry
  have hsize := entry.opening.quotedSize?_enlarged hpos
  change ((entry.opening.enlarged _).quotedSize? _).map _ = _
  rw [hsize, Option.map_map]
  rfl

end Quotes

/-- **A timber frame is a shift.**  Over exact numbers, where the deduction is not negative, an
aluminium project and its copy in timber, with the deduction added to every measured width and
height, are quoted at the same positions and for the same amounts.  Their work orders agree job by
job, in what is read off them too; only the measured sizes are larger by the deduction. -/
theorem quote_eq_of_inTimber {pricing : Pricing Rat} (hpos : 0 ≤ pricing.timberDeduction)
    {plain timber : Project Rat} (h : plain.InTimber timber pricing.timberDeduction) :
    (∀ position : Position,
      (∃ room opening, timber.Holds position room opening ∧
        opening.exclusion? (opening.cutSize (timber.deduction pricing)) = none) ↔
      ∃ room opening, plain.Holds position room opening ∧
        opening.exclusion? (opening.cutSize (plain.deduction pricing)) = none) ∧
    timber.estimate pricing = plain.estimate pricing ∧
    timber.workOrder pricing.timberDeduction =
      (plain.workOrder pricing.timberDeduction).map (fun job =>
        job.enlarged pricing.timberDeduction) ∧
    (timber.workOrder pricing.timberDeduction).map Job.exactRows =
      (plain.workOrder pricing.timberDeduction).map Job.exactRows := by
  have hjobs := h.workOrder_eq hpos
  refine ⟨h.quotes_iff hpos, h.estimate_eq hpos, hjobs, ?_⟩
  rw [hjobs, List.map_map]
  rfl

-- One opening to quote, one without width and one of a negative width.
def Project.inAluminium : Project Rat where
  frame := .aluminium
  glazing := Glazing.toughened.key
  installation := true
  frameColour := none
  quoteName := none
  rooms := [⟨"Kitchen", [⟨"A-F", 1200, 900⟩, ⟨"S", 0, 700⟩, ⟨"F/F", -20, 500⟩]⟩]

-- In timber the second opening is as wide as the deduction, and the third less wide than that.
def Project.setInTimber : Project Rat where
  frame := .timber
  glazing := Glazing.toughened.key
  installation := true
  frameColour := some "White"
  quoteName := none
  rooms := [⟨"Kitchen", [⟨"A-F", 1260, 960⟩, ⟨"S", 60, 760⟩, ⟨"F/F", 40, 560⟩]⟩]

theorem quote_eq_of_inTimber_kitchen :
    Project.inAluminium.InTimber .setInTimber 60 ∧
      (Project.setInTimber.workOrder 60).length = 1 ∧
      Project.setInTimber.estimate .wholeRates = Project.inAluminium.estimate .wholeRates ∧
      (Project.setInTimber.workOrder 60).map Job.exactRows =
        (Project.inAluminium.workOrder 60).map Job.exactRows := by
  have hcopy : Project.inAluminium.InTimber .setInTimber 60 :=
    { plain_frame := rfl
      timber_frame := rfl
      glazing := rfl
      installation := rfl
      rooms := by decide +kernel }
  have hpos : (0 : Rat) ≤ Pricing.wholeRates.timberDeduction := by decide
  obtain ⟨-, hestimate, -, hrows⟩ := quote_eq_of_inTimber hpos hcopy
  exact ⟨hcopy, by decide +kernel, hestimate, hrows⟩

end Fenestration
