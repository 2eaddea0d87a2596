import Fenestration.Proofs.Quote.BiggerJobs
import Fenestration.Proofs.Regrouping
import Mathlib.Algebra.BigOperators.Group.List.Lemmas
import Mathlib.Tactic.Ring

/-!
# Split jobs

A job can be quoted in parts.  Over exact numbers an estimate is a breakdown of two sums over the
openings of a project, and a breakdown is linear in both, so the parts of a job add up to the whole
and it does not matter which opening stands in which room.  A work order keeps the order of the
rooms, and follows the split exactly.  Main statement: `estimate_splits`.
-/

namespace Fenestration

-- The same choices for other rooms.
def Project.withRooms {α : Type} (project : Project α) (rooms : List (Room α)) : Project α :=
  { project with rooms := rooms }

instance {α : Type} [Add α] : Add (Breakdown α) where
  add a b :=
    { subtotal := a.subtotal + b.subtotal
      markup := a.markup + b.markup
      factory := a.factory + b.factory
      base := a.base + b.base
      install := a.install + b.install
      final := a.final + b.final }

/-! ## Work orders -/

theorem Project.workOrder_append {α : Type} [Sub α] [Div α] [NatCast α] [LE α] [DecidableLE α]
    (project : Project α) (first second : List (Room α)) (timberDeduction : α) :
    (project.withRooms (first ++ second)).workOrder timberDeduction =
      (project.withRooms first).workOrder timberDeduction ++
        (project.withRooms second).workOrder timberDeduction := by
  have hentries : (project.withRooms (first ++ second)).entries =
      (project.withRooms first).entries ++ (project.withRooms second).entries :=
    List.flatMap_append
  rw [workOrder, hentries, List.filterMap_append]
  rfl

/-! ## Sums over openings -/

namespace Project

variable {M : Type} (project : Project Rat) (weight : Opening Rat → M)

theorem total_append [AddMonoid M] (first second : List (Room Rat)) :
    (project.withRooms (first ++ second)).total weight =
      (project.withRooms first).total weight + (project.withRooms second).total weight := by
  change ((first ++ second).map _).sum = _
  rw [List.map_append, List.sum_append]
  rfl

theorem total_eq_sum_flatten [AddMonoid M] :
    project.total weight = (((project.rooms.map Room.openings).flatten).map weight).sum := by
  rw [List.map_flatten, List.sum_flatten, List.map_map, List.map_map]
  rfl

theorem total_eq_of_regrouping [AddCommMonoid M] {rooms others : List (Room Rat)}
    (h : Regrouping (rooms.map Room.openings) (others.map Room.openings)) :
    (project.withRooms rooms).total weight = (project.withRooms others).total weight := by
  rw [total_eq_sum_flatten, total_eq_sum_flatten]
  exact (h.perm_flatten.map weight).sum_eq

end Project

theorem Project.quotedCount_eq_length (project : Project Rat) (pricing : Pricing Rat) :
    project.quotedCount pricing = (project.workOrder pricing.timberDeduction).length := by
  have hdeduction : project.frame.deduction pricing.timberDeduction = project.deduction pricing :=
    rfl
  rw [quotedCount, ← sum_entries, workOrder_eq_map, List.length_map, quotedEntries, hdeduction]
  induction project.entries with
  | nil => rfl
  | cons entry rest ih =>
    rw [List.map_cons, List.sum_cons, ih]
    by_cases h : entry.opening.IsQuoted (project.deduction pricing)
    · rw [List.filter_cons_of_pos (by simpa using h), List.length_cons, Opening.share, if_pos h,
        Nat.add_comm]
    · rw [List.filter_cons_of_neg (by simpa using h), Opening.share, if_neg h, Nat.zero_add]

/-! ## Breakdowns -/

theorem Breakdown.ofAmounts_add (s t m n f g i j : Rat) :
    ofAmounts (s + t) (m + n) (f + g) (i + j) = ofAmounts s m f i + ofAmounts t n g j := by
  refine Breakdown.ext rfl rfl rfl ?_ rfl ?_
  · change s + t + (m + n) + (f + g) = s + m + f + (t + n + g)
    ring
  · change s + t + (m + n) + (f + g) + (i + j) = s + m + f + i + (t + n + g + j)
    ring

namespace Pricing

variable (pricing : Pricing Rat) (installation : Bool)

theorem breakdown_add (s t : Rat) (m n : Nat) :
    pricing.breakdown installation (s + t) (m + n) =
      pricing.breakdown installation s m + pricing.breakdown installation t n := by
  unfold breakdown
  rw [← Breakdown.ofAmounts_add, Nat.cast_add, add_mul, add_mul, add_mul]
  cases installation with
  | false => simp
  | true => rfl

theorem breakdown_final (subtotal : Rat) (count : Nat) :
    (pricing.breakdown installation subtotal count).final =
      pricing.markupRatio * subtotal +
        count * (pricing.factoryCost + if installation then pricing.installCost else 0) := by
  change subtotal + subtotal * (pricing.markupRatio - ((1 : Nat) : Rat)) +
    count * pricing.factoryCost + _ = _
  cases installation with
  | false =>
    simp only [Bool.false_eq_true, if_false]
    push_cast
    ring
  | true =>
    simp only [if_true]
    push_cast
    ring

end Pricing

/-! ## Estimates -/

namespace Project

variable (project : Project Rat) (pricing : Pricing Rat)

theorem estimate_append (first second : List (Room Rat)) :
    (project.withRooms (first ++ second)).estimate pricing =
      (project.withRooms first).estimate pricing + (project.withRooms second).estimate pricing := by
  have hsubtotal : (project.withRooms (first ++ second)).subtotal pricing =
      (project.withRooms first).subtotal pricing + (project.withRooms second).subtotal pricing :=
    project.total_append _ first second
  have hcount : (project.withRooms (first ++ second)).quotedCount pricing =
      (project.withRooms first).quotedCount pricing +
        (project.withRooms second).quotedCount pricing :=
    project.total_append _ first second
  rw [estimate_eq_breakdown, estimate_eq_breakdown, estimate_eq_breakdown, hsubtotal, hcount,
    Pricing.breakdown_add]
  rfl

theorem estimate_eq_of_regrouping {rooms others : List (Room Rat)}
    (h : Regrouping (rooms.map Room.openings) (others.map Room.openings)) :
    (project.withRooms rooms).estimate pricing = (project.withRooms others).estimate pricing := by
  have hsubtotal : (project.withRooms rooms).subtotal pricing =
      (project.withRooms others).subtotal pricing := project.total_eq_of_regrouping _ h
  have hcount : (project.withRooms rooms).quotedCount pricing =
      (project.withRooms others).quotedCount pricing := project.total_eq_of_regrouping _ h
  rw [estimate_eq_breakdown, estimate_eq_breakdown, hsubtotal, hcount]
  rfl

end Project

/-- **Estimates add up over any split of a job.**  Over exact numbers each amount of a job in two
parts is the sum of the amounts of the parts; the final price is the marked up subtotal and a
constant for each job of the work order.  Rooms and openings may be rearranged, also across rooms,
without any effect on the breakdown.  The work order of the whole is that of the first part
followed by that of the second, whatever the numbers are. -/
theorem estimate_splits (project : Project Rat) (pricing : Pricing Rat) :
    (∀ first second : List (Room Rat),
      (project.withRooms (first ++ second)).estimate pricing =
        (project.withRooms first).estimate pricing +
          (project.withRooms second).estimate pricing) ∧
    (project.estimate pricing).final =
      pricing.markupRatio * (project.estimate pricing).subtotal +
        (project.workOrder pricing.timberDeduction).length *
          (pricing.factoryCost + if project.installation then pricing.installCost else 0) ∧
    (∀ rooms others : List (Room Rat),
      Regrouping (rooms.map Room.openings) (others.map Room.openings) →
        (project.withRooms rooms).estimate pricing =
          (project.withRooms others).estimate pricing) ∧
    ∀ {α : Type} [Sub α] [Div α] [NatCast α] [LE α] [DecidableLE α] (job : Project α)
      (first second : List (Room α)) (timberDeduction : α),
      (job.withRooms (first ++ second)).workOrder timberDeduction =
        (job.withRooms first).workOrder timberDeduction ++
          (job.withRooms second).workOrder timberDeduction := by
  refine ⟨project.estimate_append pricing, ?_, fun rooms others h => ?_, Project.workOrder_append⟩
  · rw [Project.estimate_eq_breakdown, Pricing.breakdown_final, Project.quotedCount_eq_length]
    rfl
  · exact project.estimate_eq_of_regrouping pricing h

-- The timber frame leaves nothing of the second opening in the kitchen.
def kitchenAndBath : List (Room Rat) :=
  [⟨"Kitchen", [⟨"A-F", 1200, 900⟩, ⟨"S", 50, 700⟩]⟩, ⟨"Bath", [⟨"F", 600, 600⟩]⟩]

-- That opening has moved to the bath, which comes first now.
def bathAndKitchen : List (Room Rat) :=
  [⟨"Bath", [⟨"F", 600, 600⟩, ⟨"S", 50, 700⟩]⟩, ⟨"Kitchen", [⟨"A-F", 1200, 900⟩]⟩]

theorem estimate_splits_kitchenAndBath :
    ((Project.beforeGrowth.withRooms kitchenAndBath).workOrder 60).length = 2 ∧
      (Project.beforeGrowth.withRooms kitchenAndBath).estimate .wholeRates =
        (Project.beforeGrowth.withRooms bathAndKitchen).estimate .wholeRates := by
  have hregrouping (a b c : Opening Rat) : Regrouping [[a, b], [c]] [[c, b], [a]] := by
    apply Regrouping.trans (Regrouping.move [a] [b] [c] [])
    apply Regrouping.trans (Regrouping.groups (List.Perm.swap [b, c] [a] []))
    exact Regrouping.within (List.Perm.swap c b []) [[a]]
  obtain ⟨-, -, hrearranged, -⟩ := estimate_splits Project.beforeGrowth .wholeRates
  exact ⟨by decide +kernel, hrearranged _ _ (hregrouping _ _ _)⟩

end Fenestration
