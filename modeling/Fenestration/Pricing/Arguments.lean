import Fenestration.Checked
import Fenestration.Json.Number
import Fenestration.Pricing

/-!
# A pricing from arguments

Any figure of a pricing can be given by name; the others are those of the standard pricing.  A
table that is given replaces the standard one as a whole.
-/

namespace Fenestration

namespace Pricing

open Json (Fields)

def figureArgument (fields : Fields) (name : String) (otherwise : Binary64) : Checked Binary64 :=
  match fields.lookup name with
  | none => .ok otherwise
  | some value => Checked.atStep (.field name) value.figure

def tableOf (fields : Fields) : Checked (Table Binary64) :=
  Gathered.collect (fields.map fun (key, value) =>
    (Checked.atStep (.field key) value.figure).map fun x => (key, x))

def tableArgument (fields : Fields) (name : String) (otherwise : Table Binary64) :
    Checked (Table Binary64) :=
  match fields.lookup name with
  | none => .ok otherwise
  | some (.object table) => (tableOf table).under (.field name)
  | some _ => .error [⟨[.field name], .notTable⟩]

/-- The pricing given by arguments; a name that no figure has is ignored. -/
def ofArguments (fields : Fields) : Checked (Pricing Binary64) :=
  let figure (name : String) (otherwise : Binary64) := figureArgument fields name otherwise
  let table (name : String) (otherwise : Table Binary64) := tableArgument fields name otherwise
  let checked : Checked _ := .ok Pricing.mk
  let checked := checked.also (figure "head_rate_per_mm" standard.headRate)
  let checked := checked.also (figure "sill_rate_per_mm" standard.sillRate)
  let checked := checked.also (figure "jamb_rate_per_mm" standard.jambRate)
  let checked := checked.also (figure "mullion_rate_per_mm" standard.mullionRate)
  let checked := checked.also (figure "glass_rate_per_sq_mm" standard.glassRate)
  let checked := checked.also (figure "powder_coat_rate_per_mm" standard.powderCoatRate)
  let checked := checked.also (table "glazing_multipliers" standard.glazingFactors)
  let checked := checked.also (table "fixed_cost_by_pane_kind" standard.hardwareCosts)
  let checked := checked.also (figure "markup_ratio" standard.markupRatio)
  let checked := checked.also (figure "factory_cost_per_opening" standard.factoryCost)
  let checked := checked.also (figure "install_cost_per_opening" standard.installCost)
  checked.also (figure "timber_deduction_mm" standard.timberDeduction)

end Pricing

end Fenestration
