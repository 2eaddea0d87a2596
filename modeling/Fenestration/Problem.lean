/-!
# Problems in a request

A request that has the wrong shape is answered with all its problems, each with the path to the
offending value.  What went wrong is a `Fault`; its code and its wording are given in one place.
-/

namespace Fenestration

inductive Form
  | project
  | room
  | opening
  | pricing
  | settings
  deriving DecidableEq

def Form.name : Form → String
  | .project => "Project"
  | .room => "Room"
  | .opening => "Opening"
  | .pricing => "PricingModel"
  | .settings => "Settings"

/-- What can be wrong with a value. -/
inductive Fault
  | notList
  | notTable
  | notForm (form : Form)
  -- An object is wanted, in the body of an exchange.
  | notObject
  | notNumber
  | notNumeral
  | notText
  | frozen
  | unknownField
  | missing
  deriving DecidableEq

def Fault.code : Fault → String
  | .notList => "list_type"
  | .notTable => "dict_type"
  | .notForm _ => "model_type"
  | .notObject => "model_attributes_type"
  | .notNumber => "float_type"
  | .notNumeral => "float_parsing"
  | .notText => "string_type"
  | .frozen => "frozen_instance"
  | .unknownField => "extra_forbidden"
  | .missing => "missing"

def Fault.message : Fault → String
  | .notList => "Input should be a valid list"
  | .notTable => "Input should be a valid dictionary"
  | .notForm form => "Input should be a valid dictionary or instance of " ++ form.name
  | .notObject => "Input should be a valid dictionary or object to extract fields from"
  | .notNumber => "Input should be a valid number"
  | .notNumeral => "Input should be a valid number, unable to parse string as a number"
  | .notText => "Input should be a valid string"
  | .frozen => "Instance is frozen"
  | .unknownField => "Extra inputs are not permitted"
  | .missing => "Field required"

inductive Step
  | field (name : String)
  | item (index : Nat)
  deriving DecidableEq

/-- A fault and the path to the value that has it. -/
structure Problem where
  path : List Step
  fault : Fault
  deriving DecidableEq

def Problem.under (step : Step) (problem : Problem) : Problem :=
  { problem with path := step :: problem.path }

def Problem.allUnder (step : Step) (problems : List Problem) : List Problem :=
  problems.map (Problem.under step)

end Fenestration
