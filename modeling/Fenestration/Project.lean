import Fenestration.Frame

/-!
# Projects

A project is what a customer wants quoted: rooms with openings, measured in millimetres, and what
holds for all of them.  Sizes are of any number type, so that the same rules can be read over
doubles and over exact numbers.
-/

namespace Fenestration

@[ext]
structure Opening (α : Type) where
  style : String
  width : α
  height : α
  deriving DecidableEq

@[ext]
structure Room (α : Type) where
  name : String
  openings : List (Opening α)
  deriving DecidableEq

/-- A project: its rooms, and the choices that hold for every opening. -/
@[ext]
structure Project (α : Type) where
  frame : Frame
  glazing : String
  installation : Bool
  frameColour : Option String
  quoteName : Option String
  rooms : List (Room α)
  deriving DecidableEq

/-- An opening with the name of its room and its number in that room, counted from one. -/
structure Entry (α : Type) where
  room : String
  number : Nat
  opening : Opening α
  deriving DecidableEq

def Room.entries {α : Type} (room : Room α) : List (Entry α) :=
  (room.openings.zipIdx 1).map fun (opening, number) => ⟨room.name, number, opening⟩

def Project.entries {α : Type} (project : Project α) : List (Entry α) :=
  project.rooms.flatMap Room.entries

-- The project without rooms, in an aluminium frame.
def Project.empty {α : Type} : Project α where
  frame := .aluminium
  glazing := ""
  installation := false
  frameColour := none
  quoteName := none
  rooms := []

end Fenestration
