import Fenestration.Json.Basic

/-!
# Values on their way

A value can be sent if each of its numbers has a literal.  What a product is answered with can
always be sent: infinities and nan become null in it.  A value that is shown back to its sender is
shown without private fields, but with its numbers as they are.
-/

namespace Fenestration.Service

open Json (Fields)

/-! ## Values that can be sent -/

mutual

-- Whether each number of a value has a literal, as infinities and nan have not.
def isSendable : Json → Bool
  | .real x => x.isFinite
  | .list items => itemsSendable items
  | .object fields => fieldsSendable fields
  | _ => true

def itemsSendable : List Json → Bool
  | [] => true
  | item :: rest => isSendable item && itemsSendable rest

def fieldsSendable : Fields → Bool
  | [] => true
  | (_, value) :: rest => isSendable value && fieldsSendable rest

end

/-! ## Values made fit to be sent -/

def finiteReal (x : Binary64) : Json :=
  if x.isFinite then .real x else .null

mutual

/-- A value in which every number has a literal. -/
def finiteJson : Json → Json
  | .real x => finiteReal x
  | .list items => .list (finiteItems items)
  | .object fields => .object (finiteFields fields)
  | value => value

def finiteItems : List Json → List Json
  | [] => []
  | item :: rest => finiteJson item :: finiteItems rest

def finiteFields : Fields → Fields
  | [] => []
  | (key, value) :: rest => (key, finiteJson value) :: finiteFields rest

end

/-! ## Values that are shown -/

-- Whether a field is private: its name begins with `_sa`.
def isPrivate (name : String) : Bool :=
  "_sa".toList.isPrefixOf name.toList

mutual

def shownJson : Json → Json
  | .list items => .list (shownItems items)
  | .object fields => .object (shownFields fields)
  | value => value

def shownItems : List Json → List Json
  | [] => []
  | item :: rest => shownJson item :: shownItems rest

-- The fields of an object that are not private, each without private fields.
def shownFields : Fields → Fields
  | [] => []
  | (key, value) :: rest =>
      if isPrivate key then shownFields rest else (key, shownJson value) :: shownFields rest

end

end Fenestration.Service
