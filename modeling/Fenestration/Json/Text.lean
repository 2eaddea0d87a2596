import Fenestration.Json.Basic
import Fenestration.Number.Notation
import Fenestration.Text.Quoted

/-!
# The text of a value

Where the library needs a text and is given some other value, it takes the text of that value: a
text stands for itself, a number is written out, and a list or an object is written with its
items, in which texts are quoted.
-/

namespace Fenestration

namespace Json

mutual

def written : Json → String
  | .null => "None"
  | .bool value => if value then "True" else "False"
  | .integer value => String.ofList (integerText value)
  | .real value => toString value
  | .text value => Text.quoted value
  | .list items => "[" ++ ", ".intercalate (writtenItems items) ++ "]"
  | .object fields => "\x7b" ++ ", ".intercalate (writtenFields fields) ++ "\x7d"

def writtenItems : List Json → List String
  | [] => []
  | item :: rest => item.written :: writtenItems rest

def writtenFields : List (String × Json) → List String
  | [] => []
  | (key, value) :: rest => (Text.quoted key ++ ": " ++ value.written) :: writtenFields rest

end

/-- The text of a value: a text stands for itself. -/
def asText : Json → String
  | .text value => value
  | value => value.written

-- The text of a value, empty for null.
def asTextOrEmpty : Json → String
  | .null => ""
  | value => value.asText

-- The text of a value, none for null and for the empty text.
def asText? : Json → Option String
  | .null => none
  | .text value => if value.isEmpty then none else some value
  | value => some value.asText

end Json

end Fenestration
