import Fenestration.Document
import Fenestration.Session
import Fenestration.Settings

/-!
# Answers as JSON

The JSON form of everything that the library computes.
-/

namespace Fenestration

/-! ## Problems -/

def Step.toJson : Step → Json
  | .field name => .text name
  | .item index => .ofNat index

-- A problem; `extra` fields come last.
def Problem.toJson (problem : Problem) (extra : Json.Fields) : Json :=
  .object
    ([("type", .text problem.fault.code),
      ("loc", .list (problem.path.map Step.toJson)),
      ("msg", .text problem.fault.message)] ++ extra)

/-! ## Projects and layouts -/

def Opening.toJson (opening : Opening Binary64) : Json :=
  .object
    [("style", .text opening.style),
      ("width", .real opening.width),
      ("height", .real opening.height)]

def Room.toJson (room : Room Binary64) : Json :=
  .object [("name", .text room.name), ("windows", .list (room.openings.map Opening.toJson))]

def Entry.toJson (entry : Entry Binary64) : Json :=
  .list [.text entry.room, .ofNat entry.number, .text entry.opening.style]

def Project.toJson (project : Project Binary64) : Json :=
  .object
    [("frame_kind", .text project.frame.key),
      ("glazing_type", .text project.glazing),
      ("installation_requested", .bool project.installation),
      ("frame_color", .ofText? project.frameColour),
      ("quote_name", .ofText? project.quoteName),
      ("rooms", .list (project.rooms.map Room.toJson)),
      ("iter", .list (project.entries.map Entry.toJson))]

def Layout.toJson (layout : Layout) (code : String) : Json :=
  .object
    [("code", .text code),
      ("rows", .list (layout.rows.map fun row => .ofTexts (row.map Pane.key))),
      ("num_rows", .ofNat layout.rowCount),
      ("pane_counts", .list (layout.paneCounts.map .ofNat)),
      ("total_panes", .ofNat layout.paneTotal)]

-- Whether an opening is part of a quote, and why not if it is not.
def Opening.eligibilityJson (opening : Opening Binary64) (deduction : Binary64) : Json :=
  let cut := opening.cutSize deduction
  let exclusion := opening.exclusion? cut
  .object
    [("opening", opening.toJson),
      ("cut_width", .real cut.width),
      ("cut_height", .real cut.height),
      ("eligible", .bool exclusion.isNone),
      ("reason", .ofText? (exclusion.map Exclusion.message))]

/-! ## Figures -/

def Table.toJson (table : Table Binary64) : Json :=
  .object (table.map fun (key, value) => (key, .real value))

-- A pricing, and whether its figures are those of the standard pricing.
def Pricing.toJson (pricing : Pricing Binary64) : Json :=
  .object
    [("head_rate_per_mm", .real pricing.headRate),
      ("sill_rate_per_mm", .real pricing.sillRate),
      ("jamb_rate_per_mm", .real pricing.jambRate),
      ("mullion_rate_per_mm", .real pricing.mullionRate),
      ("glass_rate_per_sq_mm", .real pricing.glassRate),
      ("powder_coat_rate_per_mm", .real pricing.powderCoatRate),
      ("glazing_multipliers", Table.toJson pricing.glazingFactors),
      ("fixed_cost_by_pane_kind", Table.toJson pricing.hardwareCosts),
      ("markup_ratio", .real pricing.markupRatio),
      ("factory_cost_per_opening", .real pricing.factoryCost),
      ("install_cost_per_opening", .real pricing.installCost),
      ("timber_deduction_mm", .real pricing.timberDeduction),
      ("equals_default", .bool (pricing.sameFigures .standard))]

def Breakdown.toJson (breakdown : Breakdown Binary64) : Json :=
  .object
    [("subtotal", .real breakdown.subtotal),
      ("markup", .real breakdown.markup),
      ("factory", .real breakdown.factory),
      ("base", .real breakdown.base),
      ("install", .real breakdown.install),
      ("final", .real breakdown.final)]

def Settings.toJson (settings : Settings) : Json :=
  .object
    [("APP_NAME", .text settings.appName),
      ("COMPANY_NAME", .text settings.companyName),
      ("LOG_LEVEL", .text settings.logLevel),
      ("CORS_ORIGINS", .ofTexts settings.corsOrigins),
      ("MARKUP_RATIO", .real settings.markupRatio),
      ("FACTORY_COST_PER_WINDOW", .real settings.factoryCost),
      ("INSTALL_COST_PER_WINDOW", .real settings.installCost),
      ("TIMBER_DEDUCTION_MM", .real settings.timberDeduction)]

/-! ## Production -/

def CutItem.toJson (item : CutItem Binary64) : Json :=
  .object
    [("component", .text item.component.text),
      ("length_mm", .real item.length),
      ("cut_length", .text (millimetreText item.length)),
      ("quantity", .ofNat item.quantity)]

def GlassPane.toJson (glass : GlassPane Binary64) : Json :=
  .object
    [("pane_id", .text glass.identifier),
      ("pane_kind", .text glass.pane.key),
      ("pane_label", .text glass.pane.label),
      ("width_mm", .real glass.width),
      ("height_mm", .real glass.height),
      ("pane_width", .text (millimetreText glass.width)),
      ("pane_height", .text (millimetreText glass.height)),
      ("glazing_label", .text glass.glazing)]

def planFields (cuts : List (CutItem Binary64)) (glass : List (GlassPane Binary64)) :
    Json.Fields :=
  [("cutting_list", .list (cuts.map CutItem.toJson)),
    ("glass_schedule", .list (glass.map GlassPane.toJson))]

def Job.toJson (job : Job Binary64) : Json :=
  .object
    ([("room", .text job.room),
      ("window_number", .ofNat job.number),
      ("style", .text job.opening.style),
      ("width_mm", .real job.opening.width),
      ("height_mm", .real job.opening.height),
      ("cut_width_mm", .real job.cut.width),
      ("cut_height_mm", .real job.cut.height)] ++
      planFields job.cuttingList job.glassSchedule)

def workOrderJson (jobs : List (Job Binary64)) : Json :=
  .list (jobs.map Job.toJson)

/-! ## Documents -/

def rowsJson (rows : List (List String)) : Json :=
  .list (rows.map .ofTexts)

def Total.fields (total : Total) : Json.Fields :=
  [("total_label", .text total.label), ("total", .text total.amount)]

def Section.toJson (part : Section) : Json :=
  .object
    ([("title", .text part.title),
      ("intro", .text part.intro),
      ("columns", .ofTexts part.columns),
      ("rows", rowsJson part.rows)] ++ (part.total.map Total.fields).getD [])

def Document.toJson (document : Document) : Json :=
  .object
    [("doc_type", .text document.kind.name),
      ("title", .text Document.title),
      ("subtitle", .text document.kind.subtitle),
      ("quote_name", .ofText? document.quoteName),
      ("sections", .list (document.sections.map Section.toJson))]

/-! ## Replies of a session -/

def Reply.toJson : Reply → Json
  | .nothing => .null
  | .pricing figures => figures.toJson
  | .project loaded => loaded.toJson
  | .breakdown amounts => amounts.toJson
  | .workOrder jobs => workOrderJson jobs
  | .document made => made.toJson
  | .rows texts => rowsJson texts
  | .amount x => .real x

end Fenestration
