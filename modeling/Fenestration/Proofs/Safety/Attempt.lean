import Fenestration.Document

/-!
# Computing with operations that can fail

The operations of the library are total: a quotient by zero is infinite or nan, every double has a
text, and every frame has a label.  Here the computations of a quote are made with operations that
fail instead, where a divisor is zero, where a number has no whole part and where a table holds no
label.  Main statements: these computations succeed, with the value that the library computes.  For
quotients that is so for every layout (`materialCost_rows`, `cuttingList_rows`,
`glassSchedule_rows`), since no row of one is empty; for a size text the size must be finite
(`sizeText_of_isFinite`).
-/

namespace Fenestration

/-- What an operation was asked for in vain. -/
inductive Mishap
  | dividedByZero
  | noWholePart (x : Binary64)
  | noLabel (key : String)

abbrev Attempt (β : Type) := Except Mishap β

namespace Attempt

/-! ## Loops -/

section Loops

variable {β γ : Type}

theorem ok_bind (value : β) (f : β → Attempt γ) : ((.ok value : Attempt β) >>= f) = f value :=
  rfl

theorem foldlM_eq_ok {f : γ → β → Attempt γ} {g : γ → β → γ} {values : List β}
    (h : ∀ state, ∀ value ∈ values, f state value = .ok (g state value)) (state : γ) :
    values.foldlM f state = .ok (values.foldl g state) := by
  induction values generalizing state with
  | nil => rfl
  | cons value rest ih =>
    have hhead := h state value List.mem_cons_self
    have hrest : ∀ state, ∀ value ∈ rest, f state value = .ok (g state value) :=
      fun state other hother => h state other (List.mem_cons_of_mem value hother)
    rw [List.foldlM_cons, hhead, List.foldl_cons]
    exact ih hrest (g state value)

theorem mapM_eq_ok {f : β → Attempt γ} {g : β → γ} {values : List β}
    (h : ∀ value ∈ values, f value = .ok (g value)) : values.mapM f = .ok (values.map g) := by
  induction values with
  | nil => rfl
  | cons value rest ih =>
    have hhead := h value List.mem_cons_self
    have hrest := ih fun other hother => h other (List.mem_cons_of_mem value hother)
    rw [List.mapM_cons, hhead, hrest]
    rfl

end Loops

/-! ## Quotients -/

def divide (x : Binary64) (n : Nat) : Attempt Binary64 :=
  if n = 0 then .error .dividedByZero else .ok (x / (n : Binary64))

theorem divide_of_pos (x : Binary64) {n : Nat} (h : 0 < n) :
    divide x n = .ok (x / (n : Binary64)) :=
  if_neg (Nat.ne_of_gt h)

theorem divide_rowCount (x : Binary64) (layout : Layout) :
    divide x layout.rows.length = .ok (x / (layout.rowCount : Binary64)) :=
  divide_of_pos x layout.rowCount_pos

theorem divide_row (x : Binary64) {layout : Layout} {row : List Pane} (h : row ∈ layout.rows) :
    divide x row.length = .ok (x / (row.length : Binary64)) :=
  divide_of_pos x (List.length_pos_iff.mpr (layout.row_ne_nil row h))

/-! ## Material cost -/

def addRow (pricing : Pricing Binary64) (multiplier width rowHeight : Binary64)
    (tally : Pricing.Tally Binary64) (row : List Pane) : Attempt (Pricing.Tally Binary64) := do
  let tally := pricing.addMullions rowHeight row.length tally
  let area := rowHeight * (← divide width row.length)
  return { tally with cost := row.foldl (pricing.addPane multiplier area) tally.cost }

/-- The material cost of an opening with any rows, also with none or with empty ones. -/
def materialCost (pricing : Pricing Binary64) (glazing : Option String) (cut : CutSize Binary64)
    (rows : List (List Pane)) : Attempt Binary64 := do
  let rowHeight ← divide cut.height rows.length
  let multiplier := pricing.glazingFactor glazing
  let start : Pricing.Tally Binary64 :=
    ⟨pricing.addTransoms cut rows.length (pricing.frameCost cut), ((0 : Nat) : Binary64)⟩
  let tally ← rows.foldlM (addRow pricing multiplier cut.width rowHeight) start
  let extrusion := Pricing.twice cut.width + Pricing.twice cut.height +
    Pricing.transomLength cut rows.length + tally.mullion
  return tally.cost + extrusion * pricing.powderCoatRate

-- Without rows, or with an empty row, there is nothing to share a size among.
example : materialCost .standard none ⟨1000, 1000⟩ [] = .error .dividedByZero := rfl

theorem addRow_row (pricing : Pricing Binary64) (multiplier width rowHeight : Binary64)
    (tally : Pricing.Tally Binary64) {layout : Layout} {row : List Pane} (h : row ∈ layout.rows) :
    addRow pricing multiplier width rowHeight tally row =
      .ok (pricing.addRow multiplier width rowHeight tally row) := by
  rw [addRow, divide_row width h]
  rfl

theorem materialCost_rows (pricing : Pricing Binary64) (glazing : Option String)
    (cut : CutSize Binary64) (layout : Layout) :
    materialCost pricing glazing cut layout.rows =
      .ok (pricing.materialCost glazing cut layout) := by
  have hloop (multiplier rowHeight : Binary64) (start : Pricing.Tally Binary64) :
      layout.rows.foldlM (addRow pricing multiplier cut.width rowHeight) start =
        .ok (layout.rows.foldl (pricing.addRow multiplier cut.width rowHeight) start) :=
    foldlM_eq_ok
      (fun tally _ hrow => addRow_row pricing multiplier cut.width rowHeight tally hrow) start
  simp only [materialCost, divide_rowCount, ok_bind, hloop]
  rfl

/-! ## Cutting list and glass schedule -/

def cuttingList (cut : CutSize Binary64) (rows : List (List Pane)) :
    Attempt (List (CutItem Binary64)) := do
  let rowHeight ← divide cut.height rows.length
  return [⟨.headSill, cut.width, 2⟩, ⟨.jambs, cut.height, 2⟩] ++
    CuttingList.transoms cut.width rows.length ++
    ((rows.map List.length).zipIdx 1).flatMap fun (paneCount, row) =>
      CuttingList.mullions rowHeight row paneCount

def glassRow (width height : Binary64) (label : String) (panes : List Pane) (row : Nat) :
    Attempt (List (GlassPane Binary64)) := do
  let width ← divide width panes.length
  return (panes.zipIdx 1).map fun (pane, column) => ⟨row, column, pane, width, height, label⟩

def glassSchedule (cut : CutSize Binary64) (rows : List (List Pane)) (glazing : Option String) :
    Attempt (List (GlassPane Binary64)) := do
  let height ← divide cut.height rows.length
  let label := Glazing.labelFor glazing
  let parts ← (rows.zipIdx 1).mapM fun (panes, row) => glassRow cut.width height label panes row
  return parts.flatten

theorem cuttingList_rows (cut : CutSize Binary64) (layout : Layout) :
    cuttingList cut layout.rows = .ok (layout.cuttingList cut) := by
  rw [cuttingList, divide_rowCount]
  rfl

theorem glassRow_row (width height : Binary64) (label : String) {layout : Layout}
    {panes : List Pane} (h : panes ∈ layout.rows) (row : Nat) :
    glassRow width height label panes row =
      .ok ((panes.zipIdx 1).map fun (pane, column) =>
        ⟨row, column, pane, width / (panes.length : Binary64), height, label⟩) := by
  rw [glassRow, divide_row width h]
  rfl

theorem glassSchedule_rows (cut : CutSize Binary64) (layout : Layout) (glazing : Option String) :
    glassSchedule cut layout.rows glazing = .ok (layout.glassSchedule cut glazing) := by
  have hloop (height : Binary64) (label : String) :
      ((layout.rows.zipIdx 1).mapM fun (panes, row) => glassRow cut.width height label panes row) =
        .ok ((layout.rows.zipIdx 1).map fun (panes, row) =>
          (panes.zipIdx 1).map fun (pane, column) =>
            ⟨row, column, pane, cut.width / (panes.length : Binary64), height, label⟩) :=
    mapM_eq_ok fun (panes, row) h =>
      glassRow_row cut.width height label (List.fst_mem_of_mem_zipIdx h) row
  simp only [glassSchedule, divide_rowCount, ok_bind, hloop]
  rfl

/-! ## Estimate and work order -/

def addOpening (project : Project Binary64) (pricing : Pricing Binary64)
    (sum : RunningSum Binary64) (entry : Entry Binary64) : Attempt (RunningSum Binary64) :=
  match entry.opening.quotedSize? (project.frame.deduction pricing.timberDeduction) with
  | none => return sum
  | some cut => do
      let rows := Layout.rowsOf entry.opening.style.toList
      return ⟨sum.cost + (← materialCost pricing project.glazing cut rows), sum.count + 1⟩

def estimate (project : Project Binary64) (pricing : Pricing Binary64) :
    Attempt (Breakdown Binary64) :=
  if project.rooms.isEmpty then return .nothing
  else do
    let sum ← project.entries.foldlM (addOpening project pricing) ⟨((0 : Nat) : Binary64), 0⟩
    return pricing.breakdown project.installation sum.cost sum.count

def job? (project : Project Binary64) (timberDeduction : Binary64) (entry : Entry Binary64) :
    Attempt (Option (Job Binary64)) :=
  match entry.opening.quotedSize? (project.frame.deduction timberDeduction) with
  | none => return none
  | some cut => do
      let rows := Layout.rowsOf entry.opening.style.toList
      let cuts ← cuttingList cut rows
      let glass ← glassSchedule cut rows project.glazing
      return some ⟨entry.room, entry.number, entry.opening, cut, cuts, glass⟩

def workOrder (project : Project Binary64) (timberDeduction : Binary64) :
    Attempt (List (Job Binary64)) := do
  let jobs ← project.entries.mapM (job? project timberDeduction)
  return jobs.filterMap id

theorem addOpening_eq_ok (project : Project Binary64) (pricing : Pricing Binary64)
    (sum : RunningSum Binary64) (entry : Entry Binary64) :
    addOpening project pricing sum entry = .ok (project.addOpening pricing sum entry) := by
  rw [addOpening, Project.addOpening]
  cases entry.opening.quotedSize? (project.frame.deduction pricing.timberDeduction) with
  | none => rfl
  | some cut =>
    have hcost := materialCost_rows pricing project.glazing cut (.ofCode entry.opening.style)
    change (materialCost _ _ _ (Layout.ofCode entry.opening.style).rows >>= fun _ => _) = _
    rw [hcost]
    rfl

theorem estimate_eq_ok (project : Project Binary64) (pricing : Pricing Binary64) :
    estimate project pricing = .ok (project.estimate pricing) := by
  have hloop (start : RunningSum Binary64) :
      project.entries.foldlM (addOpening project pricing) start =
        .ok (project.entries.foldl (project.addOpening pricing) start) :=
    foldlM_eq_ok (fun sum entry _ => addOpening_eq_ok project pricing sum entry) start
  rw [estimate, Project.estimate, hloop]
  split <;> rfl

theorem job?_eq_ok (project : Project Binary64) (timberDeduction : Binary64)
    (entry : Entry Binary64) :
    job? project timberDeduction entry =
      .ok ((entry.opening.quotedSize? (project.frame.deduction timberDeduction)).map
        (entry.job project.glazing)) := by
  rw [job?]
  cases entry.opening.quotedSize? (project.frame.deduction timberDeduction) with
  | none => rfl
  | some cut =>
    have hcuts := cuttingList_rows cut (.ofCode entry.opening.style)
    have hglass := glassSchedule_rows cut (.ofCode entry.opening.style) project.glazing
    change (cuttingList cut (Layout.ofCode entry.opening.style).rows >>= fun _ =>
      glassSchedule cut (Layout.ofCode entry.opening.style).rows _ >>= fun _ => _) = _
    rw [hcuts, hglass]
    rfl

theorem workOrder_eq_ok (project : Project Binary64) (timberDeduction : Binary64) :
    workOrder project timberDeduction = .ok (project.workOrder timberDeduction) := by
  have hloop : project.entries.mapM (job? project timberDeduction) =
      .ok (project.entries.map fun entry =>
        (entry.opening.quotedSize? (project.frame.deduction timberDeduction)).map
          (entry.job project.glazing)) :=
    mapM_eq_ok fun entry _ => job?_eq_ok project timberDeduction entry
  rw [workOrder, hloop, ok_bind, List.filterMap_map]
  rfl

/-! ## Size texts -/

-- The whole part of a number, toward zero.
def wholePart : Binary64 → Attempt Int
  | .finite negative mag _ => .ok (Binary64.signed negative (mag / Binary64.unitsPerOne))
  | x => .error (.noWholePart x)

def sizeText (x : Binary64) : Attempt String := do
  let whole ← wholePart x
  if x.place = some (whole * Binary64.unitsPerOne) then return String.ofList (integerText whole)
  else return toString x

def scheduleRow (opening : Opening Binary64) (number : Nat) : Attempt (List String) := do
  let width ← sizeText opening.width
  let height ← sizeText opening.height
  return [natText number, opening.style, width, height, "Standard Configuration"]

def scheduleRows (room : Room Binary64) : Attempt (List (List String)) :=
  (room.openings.zipIdx 1).mapM fun (opening, number) => scheduleRow opening number

theorem signed_eq_signed_div_mul_iff (negative : Bool) (mag unit : Nat) :
    Binary64.signed negative mag = Binary64.signed negative (mag / unit) * unit ↔
      mag % unit = 0 := by
  have hdiv : mag / unit * unit = mag ↔ mag % unit = 0 := by
    have := Nat.div_add_mod' mag unit
    omega
  have hcast : ((mag / unit : Nat) : Int) * unit = ((mag / unit * unit : Nat) : Int) := by
    rw [Int.natCast_mul]
  rw [← hdiv]
  cases negative with
  | false =>
    change (mag : Int) = ((mag / unit : Nat) : Int) * unit ↔ _
    rw [hcast]
    omega
  | true =>
    change -(mag : Int) = -((mag / unit : Nat) : Int) * unit ↔ _
    rw [Int.neg_mul, hcast]
    omega

theorem sizeText_of_isFinite {x : Binary64} (h : x.isFinite = true) :
    sizeText x = .ok (Measure.text x) := by
  cases x with
  | finite negative mag fits =>
    have hwhole := signed_eq_signed_div_mul_iff negative mag Binary64.unitsPerOne
    rw [sizeText, wholePart, ok_bind, Measure.text, Binary64.place]
    by_cases hmod : mag % Binary64.unitsPerOne = 0
    · rw [if_pos hmod, if_pos (congrArg some (hwhole.mpr hmod))]
      rfl
    · rw [if_neg hmod, if_neg fun hplace => hmod (hwhole.mp (Option.some.inj hplace))]
      rfl
  | _ => cases h

theorem scheduleRow_of_isFinite {opening : Opening Binary64}
    (h : opening.width.isFinite = true ∧ opening.height.isFinite = true) (number : Nat) :
    scheduleRow opening number = .ok (opening.scheduleRow number) := by
  rw [scheduleRow, sizeText_of_isFinite h.1, sizeText_of_isFinite h.2]
  rfl

theorem scheduleRows_of_isFinite {room : Room Binary64}
    (h : ∀ opening ∈ room.openings,
      opening.width.isFinite = true ∧ opening.height.isFinite = true) :
    scheduleRows room = .ok room.scheduleRows :=
  mapM_eq_ok fun (opening, number) hmem =>
    scheduleRow_of_isFinite (h opening (List.fst_mem_of_mem_zipIdx hmem)) number

/-! ## Labels and documents -/

def label (labels : List (String × String)) (key : String) : Attempt String :=
  match labels.lookup key with
  | some text => .ok text
  | none => .error (.noLabel key)

def frameLabels : List (String × String) :=
  [("existing_timber", "Timber (-60mm Deduction)"), ("existing_aluminium", "Aluminium (Standard)")]

-- Only the kinds of document with a price have an introduction to it.
def priceIntros : List (String × String) :=
  [("customer", "Estimated pricing for your project."),
    ("sales", "Internal cost breakdown for sales team.")]

def overviewSection (project : Project Binary64) : Attempt Section := do
  let frame ← label frameLabels project.frame.key
  return { project.overviewSection with
    rows := ["Existing Frame Type", frame] :: project.overviewRows.tail }

def scheduleSection (room : Room Binary64) : Attempt Section := do
  return { room.scheduleSection with rows := ← scheduleRows room }

def workSections (project : Project Binary64) (pricing : Pricing Binary64) :
    Attempt (List Section) := do
  let jobs ← workOrder project pricing.timberDeduction
  return workOrderHeading :: jobs.flatMap fun job => [job.cuttingSection, job.glassSection]

def pricedSections (project : Project Binary64) (pricing : Pricing Binary64) (kind : DocumentKind) :
    Attempt (List Section) := do
  let schedules ← project.rooms.mapM scheduleSection
  let breakdown ← estimate project pricing
  let intro ← label priceIntros kind.name
  return schedules ++ [{ breakdown.priceSection kind with intro := intro }]

def mainSections (project : Project Binary64) (pricing : Pricing Binary64) :
    DocumentKind → Attempt (List Section)
  | .production => workSections project pricing
  | kind => pricedSections project pricing kind

def document (project : Project Binary64) (pricing : Pricing Binary64) (kind : DocumentKind) :
    Attempt Document := do
  let overview ← overviewSection project
  let main ← mainSections project pricing kind
  return ⟨kind, project.quoteName, overview :: main ++ [termsSection]⟩

theorem overviewSection_eq_ok (project : Project Binary64) :
    overviewSection project = .ok project.overviewSection := by
  have hlabel : label frameLabels project.frame.key = .ok project.frame.label := by
    cases project.frame <;> rfl
  rw [overviewSection, hlabel]
  rfl

section Documents

variable {project : Project Binary64}
  (h : ∀ room ∈ project.rooms, scheduleRows room = .ok room.scheduleRows)
include h

theorem pricedSections_eq_ok (pricing : Pricing Binary64) {kind : DocumentKind}
    (hkind : label priceIntros kind.name = .ok kind.priceIntro) :
    pricedSections project pricing kind =
      .ok (project.rooms.map Room.scheduleSection ++
        [(project.estimate pricing).priceSection kind]) := by
  have hschedules : project.rooms.mapM scheduleSection =
      .ok (project.rooms.map Room.scheduleSection) :=
    mapM_eq_ok fun room hroom => by rw [scheduleSection, h room hroom]; rfl
  rw [pricedSections, hschedules, estimate_eq_ok, hkind]
  rfl

-- The production copy has no introduction to a price, and does not look for one.
theorem mainSections_eq_ok (pricing : Pricing Binary64) (kind : DocumentKind) :
    mainSections project pricing kind = .ok (project.mainSections pricing kind) := by
  cases kind with
  | production =>
    rw [mainSections, workSections, workOrder_eq_ok]
    rfl
  | customer => exact pricedSections_eq_ok h pricing rfl
  | sales => exact pricedSections_eq_ok h pricing rfl

theorem document_eq_ok (pricing : Pricing Binary64) (kind : DocumentKind) :
    document project pricing kind = .ok (project.document pricing kind) := by
  rw [document, overviewSection_eq_ok, mainSections_eq_ok h]
  rfl

end Documents

end Attempt

end Fenestration
