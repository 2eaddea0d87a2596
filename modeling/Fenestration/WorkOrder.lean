import Fenestration.CuttingList
import Fenestration.GlassSchedule

/-!
# Work orders

The work order of a project lists the openings that are part of the quote, in project order, each
under its number among all openings of its room, with everything that production needs to know
about it.
-/

namespace Fenestration

/-- An opening as production sees it. -/
@[ext]
structure Job (α : Type) where
  room : String
  number : Nat
  opening : Opening α
  cut : CutSize α
  cuttingList : List (CutItem α)
  glassSchedule : List (GlassPane α)
  deriving DecidableEq

variable {α : Type} [Sub α] [Div α] [NatCast α] [LE α] [DecidableLE α]

def Entry.job (entry : Entry α) (glazing : Option String) (cut : CutSize α) : Job α :=
  let layout := Layout.ofCode entry.opening.style
  { room := entry.room
    number := entry.number
    opening := entry.opening
    cut := cut
    cuttingList := layout.cuttingList cut
    glassSchedule := layout.glassSchedule cut glazing }

def Project.workOrder (project : Project α) (timberDeduction : α) : List (Job α) :=
  project.entries.filterMap fun entry =>
    (entry.opening.quotedSize? (project.frame.deduction timberDeduction)).map
      (entry.job project.glazing)

end Fenestration
