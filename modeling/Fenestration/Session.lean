import Fenestration.Document
import Fenestration.Member
import Fenestration.Pricing.Arguments
import Fenestration.Project.Loading

/-!
# Sessions

A session holds a pricing, a project and a table of the caller's.  What it holds changes only by
being replaced as a whole: the fields of the held pricing and project and the pricing's own tables
cannot be written to, a pricing made from the caller's table does not follow later changes of that
table, and a command that is refused changes nothing.
-/

namespace Fenestration

open Json (Fields)

/-- What a session holds. -/
structure Session where
  pricing : Pricing Binary64
  project : Project Binary64
  table : Fields

def Session.start : Session where
  pricing := .standard
  project := .empty
  table := []

/-- The tables of a pricing. -/
inductive PricingTable
  | glazingFactors
  | hardwareCosts
  deriving DecidableEq

-- The argument by which a pricing gets a table.
def PricingTable.argument : PricingTable → String
  | .glazingFactors => "glazing_multipliers"
  | .hardwareCosts => "fixed_cost_by_pane_kind"

inductive Command
  | setPricing (fields : Fields)
  | standardPricing
  | load (fields : Fields)
  | estimate
  | workOrder
  | document (name : String)
  -- Show a room; a negative index counts from the last room.
  | roomRows (index : Json)
  | assignPricing (field : String)
  | assignProject (field : String)
  | assignTable
  -- Take a table and build a new pricing with it, as its glazing multipliers or its hardware costs.
  | sourceTable (table : Json) (role : PricingTable := .glazingFactors)
  | changeSource (key : String) (value : Json)
  | multiplier (glazing : Json)
  | hardwareCost (pane : Json)

inductive Reply
  | nothing
  | pricing (pricing : Pricing Binary64)
  | project (project : Project Binary64)
  | breakdown (breakdown : Breakdown Binary64)
  | workOrder (jobs : List (Job Binary64))
  | document (document : Document)
  | rows (rows : List (List String))
  | amount (amount : Binary64)

-- The index that a value gives: true counts as one and false as zero, and a list has no index of
-- 64 bits or more.
def Json.index : Json → Except Refusal Int
  | .bool value => .ok (if value then 1 else 0)
  | .integer value =>
      if -(twoPow 63 : Int) ≤ value ∧ value < (twoPow 63 : Int) then .ok value
      else .error .indexTooLarge
  | value => .error (.notIndex value)

def itemAt? {β : Type} (values : List β) (index : Int) : Option β :=
  if 0 ≤ index then values[index.toNat]?
  else if (-index).toNat ≤ values.length then values[values.length - (-index).toNat]?
  else none

def Json.fields : Json → Fields
  | .object fields => fields
  | _ => []

namespace Session

/-- Follows a command; a refusal leaves the session as it was. -/
def step (session : Session) : Command → Except Refusal (Reply × Session)
  | .setPricing fields => do
      let pricing ← (Pricing.ofArguments fields).asForm .pricing
      return (.pricing pricing, { session with pricing := pricing })
  | .standardPricing => .ok (.nothing, { session with pricing := .standard })
  | .load fields => do
      let project ← (Project.load fields).asForm .project
      return (.project project, { session with project := project })
  | .estimate => .ok (.breakdown (session.project.estimate session.pricing), session)
  | .workOrder =>
      .ok (.workOrder (session.project.workOrder session.pricing.timberDeduction), session)
  | .document name => do
      let document ← session.project.namedDocument session.pricing name
      return (.document document, session)
  | .roomRows index => do
      match itemAt? session.project.rooms (← index.index) with
      | some room => .ok (.rows room.scheduleRows, session)
      | none => .error .noSuchRoom
  | .assignPricing field => .error (.invalid .pricing [⟨[.field field], .frozen⟩])
  | .assignProject field => .error (.invalid .project [⟨[.field field], .frozen⟩])
  | .assignTable => .error .readOnlyTable
  | .sourceTable table role => do
      let pricing ← (Pricing.ofArguments [(role.argument, table)]).asForm .pricing
      return (.pricing pricing, { session with pricing := pricing, table := table.fields })
  | .changeSource key value =>
      .ok (.nothing, { session with table := Json.setField key value session.table })
  | .multiplier glazing => do
      let glazing ← openGlazing glazing
      return (.amount (session.pricing.glazingFactor glazing), session)
  | .hardwareCost pane => do
      let pane ← Pane.ofJson pane
      return (.amount (session.pricing.hardwareCost pane), session)

def after (session : Session) (command : Command) : Session :=
  match session.step command with
  | .ok (_, next) => next
  | .error _ => session

def run (session : Session) : List Command → List (Except Refusal Reply)
  | [] => []
  | command :: rest => (session.step command).map Prod.fst :: (session.after command).run rest

end Session

end Fenestration
