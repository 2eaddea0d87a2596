import Fenestration.Number.Rounding
import Mathlib.Algebra.Field.Rat
import Mathlib.Algebra.Order.Field.Basic
import Mathlib.Algebra.Order.Ring.Rat

/-!
# The integer nearest to a quotient

How far a rounded quotient is from the quotient itself.  Distances are counted in parts of the
divisor, so that they are natural numbers.  Main statements: rounding misses by half a unit at most
(`two_mul_miss_roundHalfEven_le`), no natural number is nearer (`miss_roundHalfEven_le`), and where
another one is equally near the rounded one is even (`roundHalfEven_even_of_miss_eq`).
-/

namespace Fenestration

/-- How far `n` is from `num / den`, in parts of `den`. -/
def miss (num den n : Nat) : Nat :=
  ((num : Int) - (n * den : Nat)).natAbs

theorem abs_sub_eq_miss_div (num n : Nat) {den : Nat} (hden : 0 < den) :
    |(num : Rat) / den - n| = miss num den n / den := by
  have hpos : (0 : Rat) < den := Nat.cast_pos.mpr hden
  have hdiff : (num : Rat) / den - n = (((num : Int) - (n * den : Nat) : Int) : Rat) / den := by
    rw [sub_eq_iff_eq_add, eq_comm, div_add' _ _ _ hpos.ne']
    push_cast
    rw [sub_add_cancel]
  rw [hdiff, abs_div, abs_of_pos hpos, miss, ← Int.cast_abs, Int.abs_eq_natAbs, Int.cast_natCast]

-- Two integers are a unit apart, so a quotient cannot be near to both of them.
theorem le_miss_add_miss {m n : Nat} (num den : Nat) (h : m ≠ n) :
    den ≤ miss num den m + miss num den n := by
  unfold miss
  rcases Nat.lt_or_gt_of_ne h with hlt | hlt
  all_goals
    obtain ⟨k, rfl⟩ := Nat.exists_eq_add_of_lt hlt
    rw [Nat.add_mul, Nat.add_mul, Nat.one_mul]
    omega

theorem miss_div (num den : Nat) : miss num den (num / den) = num % den := by
  have hnum : num / den * den + num % den = num := Nat.div_add_mod' num den
  unfold miss
  omega

theorem miss_div_add_one (num : Nat) {den : Nat} (hden : 0 < den) :
    miss num den (num / den + 1) = den - num % den := by
  have hnum : num / den * den + num % den = num := Nat.div_add_mod' num den
  have hlt : num % den < den := Nat.mod_lt num hden
  unfold miss
  rw [Nat.add_mul, Nat.one_mul]
  omega

/-- Rounding misses by half a unit at most. -/
theorem two_mul_miss_roundHalfEven_le (num : Nat) {den : Nat} (hden : 0 < den) :
    2 * miss num den (roundHalfEven num den) ≤ den := by
  rcases roundHalfEven_eq_or num den with hdown | hup
  · rw [hdown, miss_div]
    exact two_mul_mod_le_of_roundHalfEven_eq hdown
  · have hhalf := le_two_mul_mod_of_roundHalfEven_eq hup
    rw [hup, miss_div_add_one num hden]
    omega

/-- No natural number is nearer than the rounded one. -/
theorem miss_roundHalfEven_le (num n : Nat) {den : Nat} (hden : 0 < den) :
    miss num den (roundHalfEven num den) ≤ miss num den n := by
  by_cases h : roundHalfEven num den = n
  · rw [h]
  · have hhalf := two_mul_miss_roundHalfEven_le num hden
    have hapart := le_miss_add_miss num den h
    omega

theorem roundHalfEven_even_of_half {num den : Nat} (hden : 0 < den)
    (h : 2 * miss num den (roundHalfEven num den) = den) : Even (roundHalfEven num den) := by
  have hdown := miss_div num den
  have hup := miss_div_add_one num hden
  have hlt : num % den < den := Nat.mod_lt num hden
  rw [Nat.even_iff]
  unfold roundHalfEven at h ⊢
  dsimp only at h ⊢
  split at h
  · omega
  · rename_i hnotDown
    split at h
    · omega
    · rename_i hnotUp
      rw [if_neg hnotDown, if_neg hnotUp]
      omega

/-- Where another natural number is equally near, the rounded one is even. -/
theorem roundHalfEven_even_of_miss_eq {num den n : Nat} (hden : 0 < den)
    (hne : n ≠ roundHalfEven num den)
    (h : miss num den n = miss num den (roundHalfEven num den)) :
    Even (roundHalfEven num den) := by
  have hhalf := two_mul_miss_roundHalfEven_le num hden
  have hapart := le_miss_add_miss num den hne
  exact roundHalfEven_even_of_half hden (by omega)

end Fenestration
