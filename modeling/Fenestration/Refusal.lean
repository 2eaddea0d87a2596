import Fenestration.Json.Text
import Fenestration.Problem

/-!
# Refusals

Every way in which a request can be refused, by its cause.
-/

namespace Fenestration

inductive Vocabulary
  | glazing
  | pane
  | frame
  deriving DecidableEq

def Vocabulary.name : Vocabulary → String
  | .glazing => "GlazingType"
  | .pane => "PaneKind"
  | .frame => "FrameKind"

/-- Why a request is refused. -/
inductive Refusal
  | invalid (form : Form) (problems : List Problem)
  | unknownMember (vocabulary : Vocabulary) (value : Json)
  | unknownDocument (name : String)
  | missingAmount (name : String)
  | notAmount (value : Json)
  | numberTooLarge
  | noSuchRoom
  -- An index lies beyond every list.
  | indexTooLarge
  | notIndex (value : Json)
  -- A value cannot be looked up in a table.
  | notKey (value : Json)
  | readOnlyTable
  | unreadableSetting (name : String)
  | nullInVariable
  | equalsInVariable
  | unsendableNumber
  | unknownScheme (scheme : String)

namespace Refusal

def countMessage (form : Form) (count : Nat) : String :=
  natText count ++ " validation error" ++ (if count = 1 then "" else "s") ++ " for " ++ form.name

def kindName : Json → String
  | .null => "NoneType"
  | .bool _ => "bool"
  | .integer _ => "int"
  | .real _ => "float"
  | .text _ => "str"
  | .list _ => "list"
  | .object _ => "dict"

def message : Refusal → String
  | .invalid form problems => countMessage form problems.length
  | .unknownMember vocabulary value => value.written ++ " is not a valid " ++ vocabulary.name
  | .unknownDocument name =>
      "Invalid document type: " ++ name ++ ". Available: ['customer', 'sales', 'production']"
  | .missingAmount name => "'" ++ name ++ "'"
  | .notAmount value => "must be real number, not " ++ kindName value
  | .numberTooLarge => "int too large to convert to float"
  | .noSuchRoom => "list index out of range"
  | .indexTooLarge => "cannot fit 'int' into an index-sized integer"
  | .notIndex value => "list indices must be integers or slices, not " ++ kindName value
  | .notKey value => "unhashable type: '" ++ kindName value ++ "'"
  | .readOnlyTable => "'mappingproxy' object does not support item assignment"
  | .unreadableSetting name =>
      "error parsing value for field \"" ++ name ++ "\" from source \"EnvSettingsSource\""
  | .nullInVariable => "embedded null byte"
  | .equalsInVariable => "illegal environment variable name"
  | .unsendableNumber => "Out of range float values are not JSON compliant"
  | .unknownScheme scheme => "'" ++ scheme ++ "'"

end Refusal

end Fenestration
