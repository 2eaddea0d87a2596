/-!
# Panes

The kinds of pane that an opening can hold.  A style code names a pane by one letter; any other
token names a pane of unknown kind, so that reading a token never fails.
-/

namespace Fenestration

/-- The kind of a pane. -/
inductive Pane
  | awning
  | fixed
  | sliding
  | unknown
  deriving DecidableEq

namespace Pane

-- The token of a pane in a style code; the empty token stands for an unknown pane.
def token : Pane → List Char
  | .awning => ['A']
  | .fixed => ['F']
  | .sliding => ['S']
  | .unknown => []

def ofToken : List Char → Pane
  | ['A'] => .awning
  | ['F'] => .fixed
  | ['S'] => .sliding
  | _ => .unknown

theorem ofToken_token (pane : Pane) : ofToken pane.token = pane := by
  cases pane <;> rfl

-- A token that names a known pane is that pane's token.
theorem token_ofToken {cs : List Char} (h : ofToken cs ≠ .unknown) : (ofToken cs).token = cs := by
  unfold ofToken at h ⊢
  split at h
  · rfl
  · rfl
  · rfl
  · exact absurd rfl h

def key : Pane → String
  | .awning => "awning"
  | .fixed => "fixed"
  | .sliding => "sliding"
  | .unknown => "unknown"

def ofKey? (key : String) : Option Pane :=
  [awning, fixed, sliding, unknown].find? fun pane => pane.key = key

def label : Pane → String
  | .awning => "Awning"
  | .fixed => "Fixed"
  | .sliding => "Sliding"
  | .unknown => "Unknown"

end Pane

end Fenestration
