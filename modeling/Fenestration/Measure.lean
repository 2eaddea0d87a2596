import Fenestration.Json.Text
import Fenestration.Number.Numeral
import Fenestration.Text.Blank
import Fenestration.Text.DecimalDigit

/-!
# Measured sizes

A width or a height comes as a number or as the text of one, and reading it never fails: what is
no finite number is zero.  In a schedule a whole size is shown as a whole number and any other
size by its shortest decimal.
-/

namespace Fenestration

namespace Measure

def usable (x : Binary64) : Binary64 :=
  if x.isFinite then x else .zero false

-- The decimal that a text denotes: blanks at its ends are dropped, digits may be of any script,
-- and an underscore may stand between two digits.
def decimal? (cs : List Char) : Option Decimal :=
  (ungroup ' ' ((Text.trim Text.isBlank cs).map Text.toAsciiDigit)).bind Decimal.read?

def ofText (cs : List Char) : Binary64 :=
  match decimal? cs with
  | some d => usable d.nearest
  | none => .zero false

/-- The size that a value denotes; null and truth values denote none. -/
def ofJson : Json → Binary64
  | .null => .zero false
  | .bool _ => .zero false
  | value => ofText value.asText.toList

def text : Binary64 → String
  | .finite negative mag fits =>
      if mag % Binary64.unitsPerOne = 0 then
        String.ofList (integerText (Binary64.signed negative (mag / Binary64.unitsPerOne)))
      else
        toString (Binary64.finite negative mag fits)
  | x => toString x

end Measure

end Fenestration
