import Fenestration.Json.Basic
import Fenestration.Number.Notation
import Fenestration.Text.Quoted

/-!
# Writing JSON

JSON text is plain ASCII: every other character is escaped, outside the basic plane as a pair of
surrogates.
-/

namespace Fenestration

namespace Json

def unitEscape (unit : Nat) : List Char :=
  '\\' :: 'u' :: Text.hexText 4 unit

def escape (c : Char) : List Char :=
  if c = '"' || c = '\\' then ['\\', c]
  else if 0x20 ≤ c.toNat && c.toNat < 0x7f then [c]
  else if c.toNat < 0x10000 then unitEscape c.toNat
  else
    let offset := c.toNat - 0x10000
    unitEscape (0xd800 + offset / 0x400) ++ unitEscape (0xdc00 + offset % 0x400)

def printText (s : String) : String :=
  String.ofList ('"' :: s.toList.flatMap escape ++ ['"'])

-- A number; JSON has no literal for infinities and nan, so these are written as texts.
def printReal (x : Binary64) : String :=
  if x.isFinite then toString x else printText (toString x)

mutual

def print : Json → String
  | .null => "null"
  | .bool value => if value then "true" else "false"
  | .integer value => String.ofList (integerText value)
  | .real value => printReal value
  | .text value => printText value
  | .list items => "[" ++ ",".intercalate (printItems items) ++ "]"
  | .object fields => "\x7b" ++ ",".intercalate (printFields fields) ++ "\x7d"

def printItems : List Json → List String
  | [] => []
  | item :: rest => item.print :: printItems rest

def printFields : List (String × Json) → List String
  | [] => []
  | (key, value) :: rest => (printText key ++ ":" ++ value.print) :: printFields rest

end

end Json

end Fenestration
