/-!
# Existing frames

New windows are set into the frame that is there.  Only a timber frame takes part of the opening
away.
-/

namespace Fenestration

inductive Frame
  | timber
  | aluminium
  deriving DecidableEq

namespace Frame

def key : Frame → String
  | .timber => "existing_timber"
  | .aluminium => "existing_aluminium"

def ofKey? (key : String) : Option Frame :=
  [timber, aluminium].find? fun frame => frame.key = key

def label : Frame → String
  | .timber => "Timber (-60mm Deduction)"
  | .aluminium => "Aluminium (Standard)"

end Frame

end Fenestration
