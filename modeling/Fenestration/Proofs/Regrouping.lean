import Mathlib.Data.List.Perm.Basic

/-!
# Lists in groups

Openings stand in rooms and panes in rows.  Two arrangements of the same items regroup each other
if groups trade places, items trade places within a group and items move from group to group.
-/

namespace Fenestration

/-- The same items in as many groups.  The steps act on the groups in front; `groups` brings any
group there. -/
inductive Regrouping {β : Type} : List (List β) → List (List β) → Prop
  | groups {xs ys : List (List β)} (h : xs.Perm ys) : Regrouping xs ys
  | within {group other : List β} (h : group.Perm other) (rest : List (List β)) :
      Regrouping (group :: rest) (other :: rest)
  | move (giver moved receiver : List β) (rest : List (List β)) :
      Regrouping ((giver ++ moved) :: receiver :: rest) (giver :: (moved ++ receiver) :: rest)
  | trans {xs ys zs : List (List β)} : Regrouping xs ys → Regrouping ys zs → Regrouping xs zs

namespace Regrouping

variable {β : Type} {xs ys : List (List β)}

theorem perm_flatten (h : Regrouping xs ys) : xs.flatten.Perm ys.flatten := by
  induction h with
  | groups h => exact h.flatten
  | within h rest => exact h.append_right rest.flatten
  | move giver moved receiver rest =>
    simp only [List.flatten_cons, List.append_assoc, List.Perm.refl]
  | trans _ _ hfirst hsecond => exact hfirst.trans hsecond

theorem length_eq (h : Regrouping xs ys) : xs.length = ys.length := by
  induction h with
  | groups h => exact h.length_eq
  | within h rest => rfl
  | move giver moved receiver rest => rfl
  | trans _ _ hfirst hsecond => exact hfirst.trans hsecond

end Regrouping

end Fenestration
