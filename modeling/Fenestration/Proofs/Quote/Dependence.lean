import Fenestration.Proofs.Quote.WorkOrderPrice
import Mathlib.Data.List.Forall2

/-!
# What a quote depends on

A quote depends on its quoted openings, in their order, and of these only on the sizes and on the
layouts that their style codes describe.  Where rooms begin and end, what they are called, what
else stands in them and how a layout is written leaves no trace in the price.  Main statement:
`quote_eq_of_sameShape`, about any two projects.
-/

namespace Fenestration

variable {α : Type}

/-! ## Openings and jobs that cannot be told apart -/

/-- Openings of one size and one layout. -/
structure Opening.SameShape (a b : Opening α) : Prop where
  width : a.width = b.width
  height : a.height = b.height
  rows : (Layout.ofCode a.style).rows = (Layout.ofCode b.style).rows

/-- Jobs that differ at most in the name of the room, the number in it and the style code. -/
def Job.SameWork (a b : Job α) : Prop :=
  { a with room := b.room, number := b.number, opening.style := b.opening.style } = b

theorem Opening.SameShape.layout_eq {a b : Opening α} (h : a.SameShape b) :
    Layout.ofCode a.style = Layout.ofCode b.style :=
  Layout.ext h.rows

theorem Opening.SameShape.cutSize_eq [Sub α] {a b : Opening α} (h : a.SameShape b)
    (deduction : α) : a.cutSize deduction = b.cutSize deduction := by
  rw [cutSize, cutSize, h.width, h.height]

theorem Job.SameWork.cut_eq {a b : Job α} (h : a.SameWork b) : a.cut = b.cut := by
  unfold SameWork at h
  rw [← h]

theorem Entry.sameWork_job [Div α] [NatCast α] {a b : Entry α}
    (h : a.opening.SameShape b.opening) (glazing : Option String) (cut : CutSize α) :
    (a.job glazing cut).SameWork (b.job glazing cut) := by
  have hlayout := h.layout_eq
  unfold Job.SameWork
  simp only [job, hlayout, h.width, h.height]

/-! ## Work orders -/

section WorkOrders

variable [Sub α] [Div α] [NatCast α] [LE α] [DecidableLE α]

-- Projects with the same quoted shapes have the same jobs, up to the labels of these.
theorem Project.forall₂_workOrder {p q : Project α} {timberDeduction : α}
    (hframe : p.frame = q.frame) (hglazing : p.glazing = q.glazing)
    (hshapes : List.Forall₂ Opening.SameShape (p.quotedOpenings timberDeduction)
      (q.quotedOpenings timberDeduction)) :
    List.Forall₂ (fun a b => a.SameWork b ∧ a.opening.SameShape b.opening)
      (p.workOrder timberDeduction) (q.workOrder timberDeduction) := by
  rw [quotedOpenings_eq_map, quotedOpenings_eq_map, List.forall₂_map_left_iff,
    List.forall₂_map_right_iff] at hshapes
  rw [workOrder_eq_map, workOrder_eq_map, List.forall₂_map_left_iff, List.forall₂_map_right_iff,
    hframe, hglazing]
  refine hshapes.imp fun a b h => ⟨?_, h⟩
  rw [h.cutSize_eq]
  exact Entry.sameWork_job h _ _

end WorkOrders

/-! ## Prices -/

variable [Add α] [Mul α] [Div α] [NatCast α]

theorem Pricing.jobCost_eq (pricing : Pricing α) (glazing : String) {a b : Job α}
    (hwork : a.SameWork b) (hshape : a.opening.SameShape b.opening) :
    pricing.jobCost glazing a = pricing.jobCost glazing b := by
  rw [jobCost, jobCost, hwork.cut_eq, hshape.layout_eq]

-- Jobs that differ in their labels alone add up to one cost, onto whatever there is already.
theorem Pricing.addJobs_eq (pricing : Pricing α) (glazing : String) {jobs others : List (Job α)}
    (h : List.Forall₂ (fun a b => a.SameWork b ∧ a.opening.SameShape b.opening) jobs others)
    (cost : α) :
    pricing.addJobs glazing cost jobs = pricing.addJobs glazing cost others := by
  induction h generalizing cost with
  | nil => rfl
  | cons hjob _ ih =>
    rw [addJobs, addJobs, List.foldl_cons, List.foldl_cons,
      jobCost_eq pricing glazing hjob.1 hjob.2]
    exact ih _

variable [Sub α] [LE α] [DecidableLE α]

/-- **Only the quoted openings decide.**  Two projects with rooms, in the same frame and glazing,
whose quoted openings agree one by one in size and layout, have the same breakdown and the same jobs
up to labels.  If only one of them is installed, the amounts before installation still agree. -/
theorem quote_eq_of_sameShape (pricing : Pricing α) {p q : Project α}
    (hp : p.rooms ≠ []) (hq : q.rooms ≠ []) (hframe : p.frame = q.frame)
    (hglazing : p.glazing = q.glazing)
    (hshapes : List.Forall₂ Opening.SameShape (p.quotedOpenings pricing.timberDeduction)
      (q.quotedOpenings pricing.timberDeduction)) :
    (p.installation = q.installation → p.estimate pricing = q.estimate pricing) ∧
    ((p.estimate pricing).subtotal = (q.estimate pricing).subtotal ∧
      (p.estimate pricing).markup = (q.estimate pricing).markup ∧
      (p.estimate pricing).factory = (q.estimate pricing).factory ∧
      (p.estimate pricing).base = (q.estimate pricing).base) ∧
    List.Forall₂ Job.SameWork (p.workOrder pricing.timberDeduction)
      (q.workOrder pricing.timberDeduction) := by
  have hjobs := Project.forall₂_workOrder hframe hglazing hshapes
  have hcost := pricing.addJobs_eq q.glazing hjobs ((0 : Nat) : α)
  have hlength := hjobs.length_eq
  rw [p.estimate_of_rooms pricing hp, q.estimate_of_rooms pricing hq, hglazing]
  unfold Pricing.workOrderBreakdown
  rw [hcost, hlength]
  refine ⟨fun hinstallation => by rw [hinstallation], ⟨rfl, rfl, rfl, rfl⟩, ?_⟩
  exact hjobs.imp fun _ _ h => h.1

-- Two rooms with a quoted opening each; an opening without height stands between these.
def Project.overTwoRooms : Project Binary64 where
  frame := .timber
  glazing := Glazing.toughened.key
  installation := true
  frameColour := some "White"
  quoteName := none
  rooms :=
    [⟨"Kitchen", [⟨"A-F/?", 1200, 900⟩, ⟨"S", 700, 0⟩]⟩, ⟨"Bath", [⟨"S", 600.5, 600⟩]⟩]

-- The same openings in one room, behind one that the timber frame consumes; not installed.
def Project.inOneRoom : Project Binary64 where
  frame := .timber
  glazing := Glazing.toughened.key
  installation := false
  frameColour := none
  quoteName := some "Again"
  rooms :=
    [⟨"Hall", [⟨"F", 2000, 50⟩, ⟨"A-F/fixed", 1200, 900⟩, ⟨"S", 600.5, 600⟩]⟩]

theorem Project.quotedOpenings_overTwoRooms :
    overTwoRooms.quotedOpenings 60 = [⟨"A-F/?", 1200, 900⟩, ⟨"S", 600.5, 600⟩] := by
  decide +kernel

theorem Project.quotedOpenings_inOneRoom :
    inOneRoom.quotedOpenings 60 = [⟨"A-F/fixed", 1200, 900⟩, ⟨"S", 600.5, 600⟩] := by
  decide +kernel

theorem quote_eq_overTwoRooms_inOneRoom :
    (Project.overTwoRooms.estimate .standard).base = (Project.inOneRoom.estimate .standard).base ∧
      List.Forall₂ Job.SameWork (Project.overTwoRooms.workOrder 60)
        (Project.inOneRoom.workOrder 60) := by
  have hshapes : List.Forall₂ Opening.SameShape
      (Project.overTwoRooms.quotedOpenings Pricing.standard.timberDeduction)
      (Project.inOneRoom.quotedOpenings Pricing.standard.timberDeduction) := by
    change List.Forall₂ _ (Project.overTwoRooms.quotedOpenings 60)
      (Project.inOneRoom.quotedOpenings 60)
    rw [Project.quotedOpenings_overTwoRooms, Project.quotedOpenings_inOneRoom]
    exact .cons ⟨rfl, rfl, by decide +kernel⟩ (.cons ⟨rfl, rfl, rfl⟩ .nil)
  obtain ⟨-, hamounts, hjobs⟩ :=
    quote_eq_of_sameShape .standard (p := .overTwoRooms) (q := .inOneRoom) (by decide) (by decide)
      rfl rfl hshapes
  exact ⟨hamounts.2.2.2, hjobs⟩

end Fenestration
