import Fenestration.Number.FixedPoint
import Fenestration.Proofs.Number.ExactPlaces
import Fenestration.Proofs.Number.NearestInteger
import Mathlib.Tactic.Linarith

/-!
# Nearest integers, ties to even

What rounding to an integer is, said without the algorithm, and what follows from that alone: it
misses by half a unit at most (`isNearestEven_iff`), it keeps the order (`mono`), and a number that
is no farther from the result than the one that was rounded is rounded to the same result
(`of_abs_sub_le`).  Main statement: a finite double with fixed places is rounded like this in units
of its last place (`isNearestEven_signed`).
-/

namespace Fenestration

/-- No integer is nearer to `x` than `n`; if another one is equally near, `n` is even. -/
structure IsNearestEven (x : Rat) (n : Int) : Prop where
  nearest (k : Int) : |x - n| ≤ |x - k|
  even_of_tie (k : Int) : k ≠ n → |x - k| = |x - n| → Even n

-- Two integers are a unit apart, so no number is near to both of them.
theorem one_le_abs_sub_add_of_ne {m n : Int} (x : Rat) (h : m ≠ n) :
    1 ≤ |x - m| + |x - n| := by
  have hapart : (1 : Rat) ≤ |(m : Rat) - n| := by
    exact_mod_cast Int.one_le_abs (sub_ne_zero.mpr h)
  have htriangle := abs_sub_le (m : Rat) x n
  rw [abs_sub_comm (m : Rat) x] at htriangle
  linarith

/-- The nearest integer is within half a unit, and at half a unit it is even. -/
theorem isNearestEven_iff {x : Rat} {n : Int} :
    IsNearestEven x n ↔ |x - n| ≤ 1 / 2 ∧ (|x - n| = 1 / 2 → Even n) := by
  constructor
  · intro h
    have hup := h.nearest (n + 1)
    have hdown := h.nearest (n - 1)
    have htieUp := h.even_of_tie (n + 1) (by omega)
    have htieDown := h.even_of_tie (n - 1) (by omega)
    push_cast at hup hdown htieUp htieDown
    -- The neighbour on the side of `x` is the one that is nearly as near.
    rcases le_total 0 (x - n) with hside | hside
    · rw [abs_of_nonneg hside] at hup htieUp ⊢
      have hbelow : x - (n + 1) ≤ 0 := by
        by_contra habove
        rw [abs_of_pos (not_le.mp habove)] at hup
        linarith
      rw [abs_of_nonpos hbelow] at hup htieUp
      exact ⟨by linarith, fun hhalf => htieUp (by linarith)⟩
    · rw [abs_of_nonpos hside] at hdown htieDown ⊢
      have habove : 0 ≤ x - (n - 1) := by
        by_contra hbelow
        rw [abs_of_neg (not_le.mp hbelow)] at hdown
        linarith
      rw [abs_of_nonneg habove] at hdown htieDown
      exact ⟨by linarith, fun hhalf => htieDown (by linarith)⟩
  · rintro ⟨hhalf, heven⟩
    refine ⟨fun k => ?_, fun k hne htie => heven ?_⟩
    · by_cases hk : k = n
      · rw [hk]
      · have hapart := one_le_abs_sub_add_of_ne x hk
        linarith
    · have hapart := one_le_abs_sub_add_of_ne x hne
      linarith

namespace IsNearestEven

variable {x y : Rat} {m n : Int}

theorem abs_sub_le (h : IsNearestEven x n) : |x - n| ≤ 1 / 2 :=
  (isNearestEven_iff.mp h).1

-- What is no farther away from `n` than `x` is rounded to `n` like `x`, a tie included.
theorem of_abs_sub_le (h : IsNearestEven x n) (hle : |y - n| ≤ |x - n|) : IsNearestEven y n := by
  obtain ⟨hhalf, heven⟩ := isNearestEven_iff.mp h
  refine isNearestEven_iff.mpr ⟨le_trans hle hhalf, fun htie => heven ?_⟩
  exact le_antisymm hhalf (htie ▸ hle)

/-- Rounding keeps the order. -/
theorem mono (hx : IsNearestEven x m) (hy : IsNearestEven y n) (h : x ≤ y) : m ≤ n := by
  by_contra hlt
  have hstep : n + 1 ≤ m := by omega
  have hcast : (n : Rat) + 1 ≤ m := by exact_mod_cast hstep
  obtain ⟨hxhalf, hxeven⟩ := isNearestEven_iff.mp hx
  obtain ⟨hyhalf, hyeven⟩ := isNearestEven_iff.mp hy
  have hlow := (abs_le.mp hxhalf).1
  have hhigh := (abs_le.mp hyhalf).2
  -- Both numbers are the middle between two neighbours, and both neighbours would be even.
  have hneighbour : (m : Rat) = n + 1 := by linarith
  have hm : Even m := hxeven (by rw [abs_of_nonpos (by linarith)]; linarith)
  have hn : Even n := hyeven (by rw [abs_of_nonneg (by linarith)]; linarith)
  have hsucc : m = n + 1 := by exact_mod_cast hneighbour
  rw [Int.even_iff] at hm hn
  omega

/-- There is one nearest integer. -/
theorem unique (hm : IsNearestEven x m) (hn : IsNearestEven x n) : m = n :=
  le_antisymm (hm.mono hn le_rfl) (hn.mono hm le_rfl)

theorem neg (h : IsNearestEven x n) : IsNearestEven (-x) (-n) := by
  rw [isNearestEven_iff] at h ⊢
  rw [Int.cast_neg, neg_sub_neg, abs_sub_comm, even_neg]
  exact h

end IsNearestEven

/-! ## Fixed places -/

theorem isNearestEven_roundHalfEven (num : Nat) {den : Nat} (hden : 0 < den) :
    IsNearestEven ((num : Rat) / den) (roundHalfEven num den) := by
  have hpos : (0 : Rat) < den := Nat.cast_pos.mpr hden
  have hhalf := two_mul_miss_roundHalfEven_le num hden
  rw [isNearestEven_iff, Int.cast_natCast, abs_sub_eq_miss_div _ _ hden, div_le_iff₀ hpos,
    div_eq_iff hpos.ne']
  generalize hmiss : miss num den (roundHalfEven num den) = missed at hhalf ⊢
  refine ⟨?_, fun htie => ?_⟩
  · have hcast : ((2 * missed : Nat) : Rat) ≤ den := Nat.cast_le.mpr hhalf
    push_cast at hcast
    linarith
  · have hcast : ((2 * missed : Nat) : Rat) = den := by
      push_cast
      linarith
    have hexact : 2 * miss num den (roundHalfEven num den) = den := by
      rw [hmiss]
      exact_mod_cast hcast
    exact (Int.even_coe_nat _).mpr (roundHalfEven_even_of_half hden hexact)

theorem isNearestEven_roundToPlaces (places num : Nat) {den : Nat} (hden : 0 < den) :
    IsNearestEven ((num : Rat) / den * 10 ^ places) (roundToPlaces places num den) := by
  have hpower : ((tenPow places : Nat) : Rat) = 10 ^ places := Nat.cast_pow 10 places
  have hscaled : (num : Rat) / den * 10 ^ places = (num * tenPow places : Nat) / den := by
    rw [Nat.cast_mul, hpower, div_mul_eq_mul_div]
  rw [hscaled]
  exact isNearestEven_roundHalfEven _ hden

/-- In units of the last place, a finite double is shown by the nearest integer. -/
theorem isNearestEven_signed (places : Nat) (negative : Bool) (mag : Nat) :
    IsNearestEven (Binary64.ofSignedUnits negative mag * 10 ^ places)
      (Binary64.signed negative (roundToPlaces places mag Binary64.unitsPerOne)) := by
  have hround := isNearestEven_roundToPlaces places mag Binary64.unitsPerOne_pos
  cases negative with
  | false => exact hround
  | true =>
    have hneg := hround.neg
    rw [← neg_mul, ← neg_div] at hneg
    rw [Binary64.ofSignedUnits, Binary64.signed, if_pos rfl, Int.cast_neg, Int.cast_natCast]
    exact hneg

end Fenestration
