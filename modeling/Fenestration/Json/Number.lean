import Fenestration.Number.Numeral
import Fenestration.Refusal
import Fenestration.Text.Blank

/-!
# Numbers given as values

A figure may be given as a number, as a truth value, or as a text that writes a number.  An amount
of a breakdown must be a number.
-/

namespace Fenestration

namespace Json

-- The numbers that are written as words, in lower case and without sign.
def namedNumber? (negative : Bool) : List Char → Option Binary64
  | ['i', 'n', 'f'] => some (.infinite negative)
  | ['i', 'n', 'f', 'i', 'n', 'i', 't', 'y'] => some (.infinite negative)
  | ['n', 'a', 'n'] => some .nan
  | _ => none

def plainNumber? (cs : List Char) : Option Binary64 :=
  match Decimal.read? cs with
  | some d => some d.nearest
  | none =>
      let (negative, name) := Decimal.splitSign cs
      namedNumber? negative (name.map Char.toLower)

-- Whether a text holds underscores, all of them inside it and none beside another.
def isGrouped (cs : List Char) : Bool :=
  cs.contains '_' && cs.head? ≠ some '_' && cs.getLast? ≠ some '_' &&
    !(cs.zip cs.tail).contains ('_', '_')

-- The number that a text writes: white space may stand around a number, underscores inside one,
-- but not both.
def numberOfText? (s : String) : Option Binary64 :=
  let cs := s.toList
  match plainNumber? (Text.trim Text.isWhiteSpace cs) with
  | some x => some x
  | none => if isGrouped cs then plainNumber? (cs.filter (· ≠ '_')) else none

def ofTruth (value : Bool) : Binary64 :=
  if value then 1 else 0

def figure : Json → Except Fault Binary64
  | .bool value => .ok (ofTruth value)
  | .integer value =>
      let x := Binary64.ofInt value
      if x.isFinite then .ok x else .error .notNumber
  | .real value => .ok value
  | .text value =>
      match numberOfText? value with
      | some x => .ok x
      | none => .error .notNumeral
  | _ => .error .notNumber

def amount : Json → Except Refusal Binary64
  | .bool value => .ok (ofTruth value)
  | .integer value =>
      let x := Binary64.ofInt value
      if x.isFinite then .ok x else .error .numberTooLarge
  | .real value => .ok value
  | value => .error (.notAmount value)

end Json

end Fenestration
