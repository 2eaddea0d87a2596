import Fenestration.Document
import Fenestration.Proofs.Layout.GlassRows
import Fenestration.Proofs.Quote.Positions

/-!
# The copies of a quote

A customer reads every opening of a room as a row of a schedule; production reads the jobs of the
work order, two sections for each.  The rows come of a walk over the rooms and the sections of a
walk over the quoted entries, so that both number an opening the same way has to be shown.  Main
statement: each job stands under the name and the number of the row that shows its opening
(`copies_describe_same_openings`).
-/

namespace Fenestration

/-! ## Schedules -/

/-- The section shows the room: under its name, with a row for every opening, numbered from one. -/
structure Section.IsScheduleOf (part : Section) (room : Room Binary64) : Prop where
  title : part.title = "Window Schedule - Room: " ++ room.name
  length : part.rows.length = room.openings.length
  number (i : Nat) (row : List String) : part.rows[i]? = some row → row[0]? = some (natText (i + 1))

theorem Room.getElem?_scheduleRows (room : Room Binary64) (i : Nat) :
    room.scheduleRows[i]? = room.openings[i]?.map fun opening => opening.scheduleRow (i + 1) := by
  unfold scheduleRows
  rw [List.getElem?_map, List.getElem?_zipIdx, Option.map_map, Nat.add_comm 1 i]
  rfl

theorem Room.isScheduleOf (room : Room Binary64) : room.scheduleSection.IsScheduleOf room where
  title := rfl
  length := by
    change room.scheduleRows.length = room.openings.length
    unfold scheduleRows
    rw [List.length_map, List.length_zipIdx]
  number i row hrow := by
    change room.scheduleRows[i]? = some row at hrow
    rw [getElem?_scheduleRows] at hrow
    obtain ⟨opening, -, rfl⟩ := Option.map_eq_some_iff.mp hrow
    rfl

/-! ## Jobs in both copies -/

/-- The two sections list what is cut and what is glazed for the job, under its heading. -/
structure Job.IsPlannedIn (job : Job Binary64) (cutting glass : Section) : Prop where
  cuttingTitle : cutting.title =
    "Room: " ++ job.room ++ " | Window " ++ natText job.number ++ " - Cutting List"
  cuttingRows : cutting.rows = job.cuttingList.map fun item =>
    [item.component.text, millimetreText item.length, natText item.quantity]
  glassTitle : glass.title =
    "Room: " ++ job.room ++ " | Window " ++ natText job.number ++ " - Glass Schedule"
  glassRows : glass.rows = job.glassSchedule.map fun glass =>
    [glass.identifier, glass.pane.label, millimetreText glass.width, millimetreText glass.height,
      glass.glazing]

/-- At the position the schedules show the opening of the job, under the same name and number. -/
structure Job.IsShownAt (job : Job Binary64) (schedules : List Section) (position : Position) :
    Prop where
  row : ∃ schedule row, schedules[position.room]? = some schedule ∧
    schedule.rows[position.opening]? = some row ∧
    schedule.title = "Window Schedule - Room: " ++ job.room ∧
    row = [natText job.number, job.opening.style, Measure.text job.opening.width,
      Measure.text job.opening.height, "Standard Configuration"]
  layout : paneRows job.glassSchedule = (Layout.ofCode job.opening.style).rows

theorem Job.isPlannedIn (job : Job Binary64) :
    job.IsPlannedIn job.cuttingSection job.glassSection where
  cuttingTitle := rfl
  cuttingRows := rfl
  glassTitle := rfl
  glassRows := rfl

theorem Project.IsJobAt.isShownAt {project : Project Binary64} {deduction : Binary64}
    {position : Position} {job : Job Binary64} (h : project.IsJobAt deduction position job) :
    job.IsShownAt (project.rooms.map Room.scheduleSection) position := by
  obtain ⟨room, hholds, hname⟩ := h.place
  refine ⟨⟨room.scheduleSection, job.opening.scheduleRow job.number, ?_, ?_, ?_, rfl⟩, ?_⟩
  · rw [List.getElem?_map, hholds.room_at, Option.map_some]
  · change room.scheduleRows[position.opening]? = _
    rw [Room.getElem?_scheduleRows, hholds.opening_at, Option.map_some, h.number]
  · rw [hname]
    rfl
  · rw [h.glassSchedule, Layout.paneRows_glassSchedule]

/-! ## The copies side by side -/

-- The customer and the sales copy show the rooms, then the price.
theorem Project.sections_priced (project : Project Binary64) (pricing : Pricing Binary64)
    {kind : DocumentKind} (hkind : kind ≠ .production) :
    (project.document pricing kind).sections =
      project.overviewSection :: project.rooms.map Room.scheduleSection ++
        [(project.estimate pricing).priceSection kind, termsSection] := by
  have hmain : project.mainSections pricing kind =
      project.rooms.map Room.scheduleSection ++
        [(project.estimate pricing).priceSection kind] := by
    cases kind with
    | production => exact absurd rfl hkind
    | customer => rfl
    | sales => rfl
  change project.overviewSection :: project.mainSections pricing kind ++ [termsSection] = _
  rw [hmain, List.cons_append, List.append_assoc]
  rfl

-- The sections of the production copy come in pairs, job by job.
theorem Project.sections_production (project : Project Binary64) (pricing : Pricing Binary64) :
    (project.document pricing .production).sections =
      project.overviewSection :: workOrderHeading ::
        ((project.workOrder pricing.timberDeduction).map fun job =>
          (job.cuttingSection, job.glassSection)).flatMap (fun plan => [plan.1, plan.2]) ++
        [termsSection] := by
  rw [List.flatMap_map]
  rfl

/-- **Both copies describe the same openings.**  The customer copy has a schedule for each room in
order, the production copy two sections for each job in order.  Some positions, strictly in order,
lead from the jobs to the rows of the schedules that show their openings, and the glass of a job has
the layout that the style in the row stands for.  The sales copy differs from the customer copy in
its kind and in the introduction to the price. -/
theorem copies_describe_same_openings (project : Project Binary64) (pricing : Pricing Binary64) :
    ∃ (schedules : List Section) (plans : List (Section × Section)) (positions : List Position),
      (project.document pricing .customer).sections =
        project.overviewSection :: schedules ++
          [(project.estimate pricing).priceSection .customer, termsSection] ∧
      List.Forall₂ Section.IsScheduleOf schedules project.rooms ∧
      (project.document pricing .production).sections =
        project.overviewSection :: workOrderHeading ::
          plans.flatMap (fun plan => [plan.1, plan.2]) ++ [termsSection] ∧
      List.Forall₂ (fun plan job => job.IsPlannedIn plan.1 plan.2) plans
        (project.workOrder pricing.timberDeduction) ∧
      positions.Pairwise Position.Precedes ∧
      List.Forall₂ (fun position job => job.IsShownAt schedules position) positions
        (project.workOrder pricing.timberDeduction) ∧
      project.document pricing .sales =
        { project.document pricing .customer with
          kind := .sales
          sections := project.overviewSection :: schedules ++
            [{ (project.estimate pricing).priceSection .customer with
                intro := "Internal cost breakdown for sales team." },
              termsSection] } := by
  refine ⟨project.rooms.map Room.scheduleSection,
    (project.workOrder pricing.timberDeduction).map fun job =>
      (job.cuttingSection, job.glassSection),
    project.quotedPositions pricing.timberDeduction, ?_, ?_, project.sections_production pricing,
    ?_, project.pairwise_quotedPositions _, ?_, ?_⟩
  · exact project.sections_priced pricing (by decide)
  · rw [List.forall₂_map_left_iff, List.forall₂_same]
    exact fun room _ => room.isScheduleOf
  · rw [List.forall₂_map_left_iff, List.forall₂_same]
    exact fun job _ => job.isPlannedIn
  · exact (project.forall₂_isJobAt _).imp fun position job h => h.isShownAt
  · apply Document.ext
    · rfl
    · rfl
    · exact project.sections_priced pricing (by decide)

end Fenestration
