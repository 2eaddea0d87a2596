/-!
# Glazing

The glazing of a project is a text; four texts name a glazing that the library knows.  An opening
priced on its own may have no glazing at all.
-/

namespace Fenestration

/-- The glazings with a name of their own. -/
inductive Glazing
  | single
  | toughened
  | double
  | acoustic
  deriving DecidableEq

namespace Glazing

def key : Glazing → String
  | .single => "single_glazed"
  | .toughened => "toughened"
  | .double => "double_glazed"
  | .acoustic => "acoustic"

def ofKey? (key : String) : Option Glazing :=
  [single, toughened, double, acoustic].find? fun glazing => glazing.key = key

def label : Glazing → String
  | .single => "6mm Laminated (Standard)"
  | .toughened => "6mm Toughened"
  | .double => "Double Glazed"
  | .acoustic => "Acoustic Glazed"

-- The display name for a glazing given as text.
def labelFor (glazing : Option String) : String :=
  ((glazing.bind ofKey?).map label).getD "N/A"

end Glazing

end Fenestration
