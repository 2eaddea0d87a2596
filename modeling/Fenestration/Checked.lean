import Fenestration.Refusal

/-!
# Checked values

Filling a form goes on after the first problem: what is checked in parts fails with the problems
of all its parts, in order.
-/

namespace Fenestration

/-- A value, or all the problems that stood in its way. -/
abbrev Gathered (ε β : Type) := Except (List ε) β

namespace Gathered

variable {ε β γ : Type}

-- Applies a gathered function to a gathered value, with the problems of both.
def also (f : Gathered ε (β → γ)) (x : Gathered ε β) : Gathered ε γ :=
  match f, x with
  | .ok f, .ok x => .ok (f x)
  | .ok _, .error problems => .error problems
  | .error problems, .ok _ => .error problems
  | .error problems, .error others => .error (problems ++ others)

/-- All values, or all problems of the parts that have any. -/
def collect : List (Gathered ε β) → Gathered ε (List β)
  | [] => .ok []
  | .ok value :: rest => (collect rest).map (value :: ·)
  | .error problems :: rest =>
      match collect rest with
      | .ok _ => .error problems
      | .error others => .error (problems ++ others)

end Gathered

abbrev Checked (β : Type) := Gathered Problem β

namespace Checked

variable {β : Type}

-- A value of a field or of an item, or the fault that it has there.
def atStep (step : Step) (value : Except Fault β) : Checked β :=
  value.mapError fun fault => [⟨[step], fault⟩]

def under (step : Step) (checked : Checked β) : Checked β :=
  checked.mapError (Problem.allUnder step)

def asForm (form : Form) (checked : Checked β) : Except Refusal β :=
  checked.mapError (.invalid form)

end Checked

end Fenestration
