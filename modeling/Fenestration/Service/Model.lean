import Fenestration.Json.Number

/-!
# Models of answers

A model says which fields an answer has and what kind of value each of them holds.  An answer is
read through its model before it is sent: fields that are not named are dropped, unless the model is
open, a field that is left out is filled in if it can be, and nothing is kept of an answer with a
value of the wrong kind.
-/

namespace Fenestration.Service

open Json (Fields)

abbrev Model := Json → Option Json

namespace Model

/-! ## Kinds of value -/

def text : Model
  | .text value => some (.text value)
  | _ => none

def text? : Model
  | .null => some .null
  | value => text value

-- A number, in any of the forms in which a figure may be given.
def figure : Model
  | value => value.figure.toOption.map .real

-- A count.  No answer gives a count otherwise than as a whole number.
def count : Model
  | .integer value => some (.integer value)
  | _ => none

def list (item : Model) : Model
  | .list values => (values.mapM item).map .list
  | _ => none

/-! ## Records -/

/-- A field of a model; one that has a value to stand for it may be left out. -/
structure Field where
  name : String
  model : Model
  otherwise : Option Json := none

def Field.keep (field : Field) (given : Fields) : Option (String × Json) :=
  match given.lookup field.name with
  | some value => (field.model value).map fun kept => (field.name, kept)
  | none => field.otherwise.map fun value => (field.name, value)

def unnamed (fields : List Field) (given : Fields) : Fields :=
  given.filter fun (name, _) => !(fields.map Field.name).contains name

/-- An object with the given fields; an open one also keeps all others as they are. -/
def record (isOpen : Bool) (fields : List Field) : Model
  | .object given =>
      (fields.mapM fun field : Field => field.keep given).map fun kept =>
        .object (kept ++ if isOpen then unnamed fields given else [])
  | _ => none

/-! ## The models -/

def breakdown : Model :=
  record false
    [⟨"subtotal", figure, none⟩, ⟨"markup", figure, none⟩, ⟨"factory", figure, none⟩,
      ⟨"base", figure, none⟩, ⟨"install", figure, none⟩, ⟨"final", figure, none⟩]

def cutItem : Model :=
  record false
    [⟨"component", text, none⟩, ⟨"length_mm", figure, none⟩, ⟨"cut_length", text, none⟩,
      ⟨"quantity", count, none⟩]

def glassPane : Model :=
  record false
    [⟨"pane_id", text, none⟩, ⟨"pane_kind", text, none⟩, ⟨"pane_label", text, none⟩,
      ⟨"width_mm", figure, none⟩, ⟨"height_mm", figure, none⟩, ⟨"pane_width", text, none⟩,
      ⟨"pane_height", text, none⟩, ⟨"glazing_label", text, none⟩]

def job : Model :=
  record false
    [⟨"room", text, none⟩, ⟨"window_number", count, none⟩, ⟨"style", text, none⟩,
      ⟨"width_mm", figure, none⟩, ⟨"height_mm", figure, none⟩, ⟨"cut_width_mm", figure, none⟩,
      ⟨"cut_height_mm", figure, none⟩, ⟨"cutting_list", list cutItem, some (.list [])⟩,
      ⟨"glass_schedule", list glassPane, some (.list [])⟩]

def productionPlan : Model :=
  record false [⟨"openings", list job, some (.list [])⟩]

-- A section of a document.  Only a price section has a total, so the model is open.
def documentSection : Model :=
  record true
    [⟨"title", text, none⟩, ⟨"intro", text, some (.text "")⟩,
      ⟨"columns", list text, some (.list [])⟩, ⟨"rows", list (list text), some (.list [])⟩]

def document : Model :=
  record false
    [⟨"doc_type", text, none⟩, ⟨"title", text, none⟩, ⟨"subtitle", text, none⟩,
      ⟨"quote_name", text?, some .null⟩, ⟨"sections", list documentSection, some (.list [])⟩]

end Model

end Fenestration.Service
