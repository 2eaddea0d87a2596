import Mathlib.Algebra.BigOperators.Group.List.Basic

/-!
# Numbered lists

Rows, panes, openings and the values of a request are numbered where they stand in a list.
-/

namespace Fenestration

theorem pairwise_lt_zipIdx {β : Type} (values : List β) (start : Nat) :
    (values.zipIdx start).Pairwise fun a b => a.2 < b.2 := by
  rw [← List.pairwise_map (f := Prod.snd), List.zipIdx_map_snd]
  exact List.pairwise_lt_range' 1

section Pieces

variable {β γ : Type} (pieces : β × Nat → List γ)

-- Numbering a list does not change a sum that does not look at the numbers.
theorem sum_flatMap_zipIdx {M : Type} [AddMonoid M] (xs : List β) (k : Nat) (weight : γ → M)
    (total : β → M) (h : ∀ x i, ((pieces (x, i)).map weight).sum = total x) :
    (((xs.zipIdx k).flatMap pieces).map weight).sum = (xs.map total).sum := by
  induction xs generalizing k with
  | nil => rfl
  | cons x rest ih =>
    rw [List.zipIdx_cons, List.flatMap_cons, List.map_append, List.sum_append, ih, h,
      List.map_cons, List.sum_cons]

variable {key : γ → Nat} (hkey : ∀ x i, ∀ y ∈ pieces (x, i), key y = i)
include hkey

theorem filter_flatMap_zipIdx_of_lt {xs : List β} {k n : Nat} (hlt : n < k) :
    ((xs.zipIdx k).flatMap pieces).filter (fun y => decide (key y = n)) = [] := by
  rw [List.filter_eq_nil_iff]
  intro y hy
  obtain ⟨⟨x, i⟩, hx, hy⟩ := List.mem_flatMap.mp hy
  have hle := List.le_snd_of_mem_zipIdx hx
  have hy := hkey x i y hy
  simp only at hle
  simp only [decide_eq_true_eq]
  omega

-- The pieces under one number are those of the item that has it.
theorem filter_flatMap_zipIdx {xs : List β} {k i : Nat} {x : β} (hx : xs[i]? = some x) :
    ((xs.zipIdx k).flatMap pieces).filter (fun y => decide (key y = k + i)) =
      pieces (x, k + i) := by
  induction xs generalizing k i with
  | nil => cases hx
  | cons first rest ih =>
    rw [List.zipIdx_cons, List.flatMap_cons, List.filter_append]
    cases i with
    | zero =>
      cases hx
      rw [filter_flatMap_zipIdx_of_lt pieces hkey (Nat.lt_succ_self _), List.append_nil]
      apply List.filter_eq_self.mpr
      intro y hy
      simpa using hkey x k y hy
    | succ i =>
      have hhead : (pieces (first, k)).filter (fun y => decide (key y = k + (i + 1))) = [] := by
        rw [List.filter_eq_nil_iff]
        intro y hy
        have hy := hkey first k y hy
        simp only [decide_eq_true_eq]
        omega
      have hnext : k + (i + 1) = k + 1 + i := by omega
      rw [hhead, List.nil_append, hnext]
      exact ih hx

end Pieces

end Fenestration
