import Fenestration.Checked
import Fenestration.Measure
import Fenestration.Project

/-!
# Loading a project

A project is loaded from the fields of an object.  Single values are taken leniently, so loading
fails only on the shape: a list that is none, or a room or an opening that is no object.  All such
problems are reported, in the order of the request.
-/

namespace Fenestration

namespace Loading

open Json (Fields fieldOf)

-- Loads every item of a list; a void value stands for the empty list.
def items {β : Type} (load : Json → Checked β) : Json → Checked (List β)
  | .list values => Gathered.collect (values.mapIdx fun i value => (load value).under (.item i))
  | value => if value.isVoid then .ok [] else .error [⟨[], .notList⟩]

def openingOf (fields : Fields) : Opening Binary64 where
  style := (fieldOf fields "style").asTextOrEmpty
  width := Measure.ofJson (fieldOf fields "width")
  height := Measure.ofJson (fieldOf fields "height")

def opening : Json → Checked (Opening Binary64)
  | .object fields => .ok (openingOf fields)
  | _ => .error [⟨[], .notForm .opening⟩]

def room : Json → Checked (Room Binary64)
  | .object fields =>
      ((items opening (fieldOf fields "windows")).under (.field "windows")).map fun openings =>
        { name := (fieldOf fields "name").asTextOrEmpty, openings := openings }
  | _ => .error [⟨[], .notForm .room⟩]

def isText (expected : String) : Json → Bool
  | .text value => value = expected
  | _ => false

-- The frame named by a value: only the word for timber names a timber frame.
def frame (value : Json) : Frame :=
  if isText "timber" value then .timber else .aluminium

def projectOf (fields : Fields) (rooms : List (Room Binary64)) : Project Binary64 where
  frame := frame (fieldOf fields "existingFrame")
  glazing := (fieldOf fields "glazingType").asTextOrEmpty
  installation := isText "yes" (fieldOf fields "installationCosts")
  frameColour := (fieldOf fields "frameColor").asText?
  quoteName := (fieldOf fields "quoteName").asText?
  rooms := rooms

end Loading

/-- Loads a project from the fields of a request. -/
def Project.load (fields : Json.Fields) : Checked (Project Binary64) :=
  ((Loading.items Loading.room (Json.fieldOf fields "rooms")).under (.field "rooms")).map
    (Loading.projectOf fields)

end Fenestration
