import Fenestration.Measure
import Fenestration.Estimate
import Fenestration.Json.Number
import Fenestration.Number.FixedPoint
import Fenestration.WorkOrder

/-!
# Quote documents

A document is a title and ordered sections; a section is a heading, an introduction, column
headings and rows of display texts.  The customer and the sales copy show every opening as entered
and the price, the production copy shows the work order and no price.
-/

namespace Fenestration

/-! ## Kinds and sections -/

/-- For whom a document is made. -/
inductive DocumentKind
  | customer
  | sales
  | production
  deriving DecidableEq

namespace DocumentKind

def name : DocumentKind → String
  | .customer => "customer"
  | .sales => "sales"
  | .production => "production"

def ofName? (name : String) : Option DocumentKind :=
  [customer, sales, production].find? fun kind => kind.name = name

def subtitle : DocumentKind → String
  | .customer => "Customer Version"
  | .sales => "Sales Version"
  | .production => "Production Version"

end DocumentKind

structure Total where
  label : String
  amount : String
  deriving DecidableEq

@[ext]
structure Section where
  title : String
  intro : String
  columns : List String
  rows : List (List String)
  total : Option Total := none
  deriving DecidableEq

@[ext]
structure Document where
  kind : DocumentKind
  quoteName : Option String
  sections : List Section
  deriving DecidableEq

def Document.title : String := "Window Quotation"

/-! ## Rows -/

def Project.overviewRows {α : Type} (project : Project α) : List (List String) :=
  [["Existing Frame Type", project.frame.label],
    ["Default Glazing", Glazing.labelFor project.glazing],
    ["Frame Colour", project.frameColour.getD "Not Specified"],
    ["Installation Included", if project.installation then "Yes" else "No"]]

def Opening.scheduleRow (opening : Opening Binary64) (number : Nat) : List String :=
  [natText number, opening.style, Measure.text opening.width, Measure.text opening.height,
    "Standard Configuration"]

-- Every opening of a room in entry order, also those left out of the quote.
def Room.scheduleRows (room : Room Binary64) : List (List String) :=
  (room.openings.zipIdx 1).map fun (opening, number) => opening.scheduleRow number

-- The amounts of a price section: their names in a breakdown and their labels.
def priceLines : List (String × String) :=
  [("subtotal", "Materials & Components Subtotal"), ("markup", "Waste & Profit Markup"),
    ("factory", "Factory Build Costs"), ("base", "Total Base Price (ex. Installation)"),
    ("install", "Installation Cost")]

def Breakdown.lineAmounts {α : Type} (breakdown : Breakdown α) : List α :=
  [breakdown.subtotal, breakdown.markup, breakdown.factory, breakdown.base, breakdown.install]

def Breakdown.priceRows (breakdown : Breakdown Binary64) : List (List String) :=
  (priceLines.zip breakdown.lineAmounts).map fun ((_, label), amount) =>
    [label, currencyText amount]

-- The lines of a price section, from amounts given by name; the first amount that is wanting
-- decides.
def priceRowsOf (amounts : Json.Fields) : Except Refusal (List (List String)) :=
  priceLines.mapM fun (name, label) => do
    let some value := amounts.lookup name | .error (.missingAmount name)
    let amount ← value.amount
    return [label, currencyText amount]

def CutItem.row (item : CutItem Binary64) : List String :=
  [item.component.text, millimetreText item.length, natText item.quantity]

def GlassPane.textRow (glass : GlassPane Binary64) : List String :=
  [glass.identifier, glass.pane.label, millimetreText glass.width, millimetreText glass.height,
    glass.glazing]

def terms : List String :=
  ["This quote is valid for 30 days from the date issued.",
    "Prices are subject to change based on material costs and availability.",
    "Installation is optional and can be adjusted based on project requirements.",
    "All work complies with local building codes and industry standards.",
    "Payment terms: 50% deposit upon acceptance, 50% upon project completion.",
    "Any changes to specifications may affect the quoted price.",
    "Lead times are estimated and subject to change based on production schedule."]

/-! ## Sections -/

def Project.overviewSection {α : Type} (project : Project α) : Section where
  title := "Project Overview"
  intro := "This document provides detailed specifications for your window project."
  columns := ["Specification", "Details"]
  rows := project.overviewRows

def Room.scheduleSection (room : Room Binary64) : Section where
  title := "Window Schedule - Room: " ++ room.name
  intro := "Detailed schedule of windows per room."
  columns := ["#", "Style Code", "Width (mm)", "Height (mm)", "Notes"]
  rows := room.scheduleRows

def DocumentKind.priceIntro : DocumentKind → String
  | .sales => "Internal cost breakdown for sales team."
  | _ => "Estimated pricing for your project."

def Breakdown.priceSection (breakdown : Breakdown Binary64) (kind : DocumentKind) : Section where
  title := "Price Breakdown"
  intro := kind.priceIntro
  columns := ["Item", "Cost"]
  rows := breakdown.priceRows
  total := some ⟨"Final Estimated Total:", currencyText breakdown.final⟩

def workOrderHeading : Section where
  title := "Production Work Order"
  intro := "Detailed production instructions including cutting lists and glass schedules."
  columns := []
  rows := []

def Job.heading {α : Type} (job : Job α) : String :=
  "Room: " ++ job.room ++ " | Window " ++ natText job.number

def Job.cuttingSection (job : Job Binary64) : Section where
  title := job.heading ++ " - Cutting List"
  intro := ""
  columns := ["Component", "Cut Length", "Qty"]
  rows := job.cuttingList.map CutItem.row

def Job.glassSection (job : Job Binary64) : Section where
  title := job.heading ++ " - Glass Schedule"
  intro := ""
  columns := ["Pane ID", "Type", "Width", "Height", "Glazing"]
  rows := job.glassSchedule.map GlassPane.textRow

def termsSection : Section where
  title := "Terms and Conditions"
  intro := ""
  columns := ["#", "Term"]
  rows := (terms.zipIdx 1).map fun (term, number) => [natText number, term]

/-! ## Documents -/

-- The sections between the overview and the terms.
def Project.mainSections (project : Project Binary64) (pricing : Pricing Binary64) :
    DocumentKind → List Section
  | .production =>
      workOrderHeading ::
        (project.workOrder pricing.timberDeduction).flatMap fun job =>
          [job.cuttingSection, job.glassSection]
  | kind =>
      project.rooms.map Room.scheduleSection ++ [(project.estimate pricing).priceSection kind]

def Project.document (project : Project Binary64) (pricing : Pricing Binary64)
    (kind : DocumentKind) : Document where
  kind := kind
  quoteName := project.quoteName
  sections := project.overviewSection :: project.mainSections pricing kind ++ [termsSection]

def Project.namedDocument (project : Project Binary64) (pricing : Pricing Binary64)
    (name : String) : Except Refusal Document :=
  match DocumentKind.ofName? name with
  | some kind => .ok (project.document pricing kind)
  | none => .error (.unknownDocument name)

end Fenestration
