import Fenestration.Number.Binary64

/-!
# JSON values

A request is a JSON value.  Whole numbers are kept apart from other numbers, and the fields of an
object stand in the order in which they were written.  Texts are of characters: no surrogate stands
alone in them.
-/

namespace Fenestration

/-- A JSON value; a number written without point and exponent is an `integer`. -/
inductive Json
  | null
  | bool (value : Bool)
  | integer (value : Int)
  | real (value : Binary64)
  | text (value : String)
  | list (items : List Json)
  | object (fields : List (String × Json))
  deriving Inhabited

namespace Json

abbrev Fields := List (String × Json)

-- The value of a field, or the value that stands for it where the field is absent.
def fieldOr (fields : Fields) (name : String) (otherwise : Json) : Json :=
  (fields.lookup name).getD otherwise

-- The value of a field, null where the field is absent.
def fieldOf (fields : Fields) (name : String) : Json :=
  fieldOr fields name .null

theorem fieldOf_of_lookup {fields : Fields} {name : String} {value : Json}
    (h : fields.lookup name = some value) : fieldOf fields name = value := by
  rw [fieldOf, fieldOr, h, Option.getD_some]

theorem lookup_of_fieldOf_ne_null {fields : Fields} {name : String}
    (h : fieldOf fields name ≠ .null) : fields.lookup name = some (fieldOf fields name) := by
  rw [fieldOf, fieldOr] at h ⊢
  cases hlookup : fields.lookup name with
  | none =>
    rw [hlookup] at h
    exact absurd rfl h
  | some value => rfl

-- Writes a field: in its place if it is there, behind all others if not.
def setField {κ β : Type} [DecidableEq κ] (name : κ) (value : β) : List (κ × β) → List (κ × β)
  | [] => [(name, value)]
  | (key, old) :: rest =>
      if key = name then (key, value) :: rest else (key, old) :: setField name value rest

-- Empty or nothing: null, false, zero, the empty text, the empty list and the empty object.
def isVoid : Json → Bool
  | .null => true
  | .bool value => !value
  | .integer value => value = 0
  | .real value => value.sameNumber 0
  | .text value => value.isEmpty
  | .list items => items.isEmpty
  | .object fields => fields.isEmpty

def ofText? : Option String → Json
  | some value => .text value
  | none => .null

def ofTexts (values : List String) : Json :=
  .list (values.map .text)

def ofNat (n : Nat) : Json :=
  .integer n

end Json

end Fenestration
