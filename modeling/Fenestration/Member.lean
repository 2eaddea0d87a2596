import Fenestration.Frame
import Fenestration.Glazing
import Fenestration.Pane
import Fenestration.Refusal

/-!
# Members of a vocabulary

A pane, a frame or a glazing named by a value.  A glazing may also be taken as it comes, in which
case any text, or none, will do.
-/

namespace Fenestration

def Vocabulary.member {β : Type} (vocabulary : Vocabulary) (find? : String → Option β)
    (value : Json) : Except Refusal β :=
  match value with
  | .text key =>
      match find? key with
      | some found => .ok found
      | none => .error (.unknownMember vocabulary value)
  | _ => .error (.unknownMember vocabulary value)

def Pane.ofJson : Json → Except Refusal Pane :=
  Vocabulary.pane.member Pane.ofKey?

def Frame.ofJson : Json → Except Refusal Frame :=
  Vocabulary.frame.member Frame.ofKey?

/-- A glazing as it comes.  A list or an object cannot be looked up in a table; any other value that
is no text is as good as no glazing. -/
def openGlazing : Json → Except Refusal (Option String)
  | .text key => .ok (some key)
  | .list items => .error (.notKey (.list items))
  | .object fields => .error (.notKey (.object fields))
  | _ => .ok none

-- The key of the glazing that a value names; where the vocabulary is not `closed`, whatever text
-- it is.
def glazingOfJson (closed : Bool) (value : Json) : Except Refusal (Option String) :=
  if closed then
    (Vocabulary.glazing.member Glazing.ofKey? value).map fun glazing => some glazing.key
  else
    openGlazing value

end Fenestration
