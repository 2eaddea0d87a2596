import Fenestration.Number.Decimal

/-!
# The double nearest to a decimal

Rounding looks at the value of a quotient alone, not at the numbers that it is a quotient of.
Powers of ten far outside the range of doubles are decided without computing them, and that makes
no difference either.  Main statements: `nearest_eq_ofRatio`, that a decimal is rounded from its
exact value, and `nearest_mul_tenPow`, that zeros at the end of a coefficient can be traded for the
exponent.
-/

namespace Fenestration

/-! ## Quotients of one value -/

theorem roundHalfEven_mul_right (num den : Nat) {k : Nat} (hk : 0 < k) :
    roundHalfEven (num * k) (den * k) = roundHalfEven num den := by
  unfold roundHalfEven
  simp only [Nat.mul_div_mul_right _ _ hk, Nat.mul_mod_mul_right, ← Nat.mul_assoc,
    Nat.mul_lt_mul_right hk]

theorem nearestMag_mul_right (num den : Nat) {k : Nat} (hk : 0 < k) :
    nearestMag (num * k) (den * k) = nearestMag num den := by
  rw [nearestMag, nearestMag, Nat.mul_div_mul_right _ _ hk, Nat.mul_right_comm,
    roundHalfEven_mul_right _ _ hk]

theorem nearestMag_eq_of_mul_eq {a b c d : Nat} (hb : 0 < b) (hd : 0 < d) (h : a * d = c * b) :
    nearestMag a b = nearestMag c d := by
  rw [← nearestMag_mul_right a b hd, ← nearestMag_mul_right c d hb, h, Nat.mul_comm b d]

namespace Binary64

theorem ofUnits_eq_of_nearestMag_eq {a b c d : Nat} (h : nearestMag a b = nearestMag c d)
    (negative : Bool) : ofUnits negative a b = ofUnits negative c d := by
  unfold ofUnits
  simp only [h]

theorem ofRatio_eq_of_mul_eq {a b c d : Nat} (hb : 0 < b) (hd : 0 < d) (h : a * d = c * b)
    (negative : Bool) : ofRatio negative a b = ofRatio negative c d := by
  have hunits : a * unitsPerOne * d = c * unitsPerOne * b := by
    rw [Nat.mul_right_comm, h, Nat.mul_right_comm]
  exact ofUnits_eq_of_nearestMag_eq (nearestMag_eq_of_mul_eq hb hd hunits) negative

end Binary64

/-! ## Far outside the range of doubles -/

-- A power of two that a quotient reaches is reached after rounding, too.
theorem twoPow_le_nearestMag {num den k : Nat} (hden : 0 < den) (h : twoPow k ≤ num / den) :
    twoPow k ≤ nearestMag num den := by
  have hpos : num / den ≠ 0 := Nat.ne_of_gt (Nat.lt_of_lt_of_le (twoPow_pos k) h)
  have hlog : k ≤ (num / den).log2 := (Nat.le_log2 hpos).mpr h
  have hround {n : Nat} (hn : n * spacing (num / den) ≤ num / den) :
      n * spacing (num / den) ≤ nearestMag num den := by
    refine Nat.mul_le_mul_right _ (le_roundHalfEven (Nat.mul_pos hden (spacing_pos _)) ?_)
    rw [← Nat.mul_assoc, Nat.mul_right_comm]
    exact (Nat.le_div_iff_mul_le hden).mp hn
  by_cases hsmall : (num / den).log2 < 52
  · -- Here the neighbours are one unit apart.
    have hspacing : spacing (num / den) = 1 := by
      have hzero : (num / den).log2 - 52 = 0 := Nat.sub_eq_zero_of_le (by omega)
      exact congrArg twoPow hzero
    have hle : num / den * spacing (num / den) ≤ num / den :=
      Nat.le_of_eq (by rw [hspacing, Nat.mul_one])
    have hkept := hround hle
    rw [hspacing, Nat.mul_one] at hkept
    exact Nat.le_trans h hkept
  · have htop : twoPow 52 * spacing (num / den) = twoPow (num / den).log2 := by
      rw [spacing, ← twoPow_add, Nat.add_sub_of_le (by omega)]
    have hkept := hround (n := twoPow 52) (by
      rw [htop]
      exact Nat.log2_self_le hpos)
    rw [htop] at hkept
    exact Nat.le_trans (twoPow_le_twoPow hlog) hkept

theorem nearestMag_eq_zero {num den : Nat} (h : 2 * num < den) : nearestMag num den = 0 := by
  have hquot : num / den = 0 := Nat.div_eq_of_lt (by omega)
  have hspacing : den * spacing 0 = den := Nat.mul_one den
  have hround : roundHalfEven num den = 0 := by
    unfold roundHalfEven
    dsimp only
    rw [Nat.mod_eq_of_lt (by omega), if_pos h, hquot]
  rw [nearestMag, hquot, hspacing, hround, Nat.zero_mul]

theorem twoPow_three_mul_le_tenPow (k : Nat) : twoPow (3 * k) ≤ tenPow k := by
  induction k with
  | zero => exact Nat.le_refl 1
  | succ k ih =>
    rw [Nat.mul_succ, twoPow_add, tenPow_add]
    exact Nat.mul_le_mul ih (by decide)

namespace Binary64

theorem ofRatio_eq_zero {num den : Nat} (h : 2 * (num * unitsPerOne) < den) (negative : Bool) :
    ofRatio negative num den = zero negative := by
  have hmag : nearestMag (num * unitsPerOne) den = 0 := nearestMag_eq_zero h
  have hlt : (0 : Nat) < overflowMag := overflowMag_pos
  unfold ofRatio ofUnits
  simp only [hmag]
  rw [dif_pos hlt]
  rfl

theorem ofRatio_eq_infinite {num : Nat} (h : overflowMag ≤ num * unitsPerOne) (negative : Bool) :
    ofRatio negative num 1 = .infinite negative := by
  have hmag : overflowMag ≤ nearestMag (num * unitsPerOne) 1 :=
    twoPow_le_nearestMag Nat.one_pos (by rwa [Nat.div_one])
  unfold ofRatio ofUnits
  rw [dif_neg (Nat.not_lt.mpr hmag)]

end Binary64

/-! ## Decimals -/

namespace Decimal

open Binary64

theorem ratio_of_nonneg {d : Decimal} (h : 0 ≤ d.exponent) :
    d.ratio = (d.coefficient * tenPow d.exponent.toNat, 1) :=
  if_pos h

theorem ratio_of_neg {d : Decimal} (h : d.exponent < 0) :
    d.ratio = (d.coefficient, tenPow (-d.exponent).toNat) :=
  if_neg (by omega)

theorem ratio_den_pos (d : Decimal) : 0 < d.ratio.2 := by
  by_cases h : 0 ≤ d.exponent
  · rw [ratio_of_nonneg h]
    exact Nat.one_pos
  · rw [ratio_of_neg (by omega)]
    exact tenPow_pos _

theorem ofRatio_of_coefficient_eq_zero {d : Decimal} (h : d.coefficient = 0) :
    ofRatio d.negative d.ratio.1 d.ratio.2 = zero d.negative := by
  have hnum : d.ratio.1 = 0 := by
    by_cases hexponent : 0 ≤ d.exponent
    · rw [ratio_of_nonneg hexponent, h, Nat.zero_mul]
    · rw [ratio_of_neg (by omega), h]
  rw [hnum]
  refine ofRatio_eq_zero ?_ d.negative
  rw [Nat.zero_mul]
  exact d.ratio_den_pos

theorem ofRatio_of_large {d : Decimal} (hcoefficient : d.coefficient ≠ 0)
    (h : 400 < d.exponent) :
    ofRatio d.negative d.ratio.1 d.ratio.2 = .infinite d.negative := by
  rw [ratio_of_nonneg (by omega)]
  refine ofRatio_eq_infinite ?_ d.negative
  have hpower : twoPow 1024 ≤ tenPow d.exponent.toNat :=
    Nat.le_trans (twoPow_le_twoPow (by omega)) (twoPow_three_mul_le_tenPow _)
  have hfactor : twoPow 1024 ≤ d.coefficient * tenPow d.exponent.toNat :=
    Nat.le_trans hpower (Nat.le_mul_of_pos_left _ (Nat.pos_of_ne_zero hcoefficient))
  have hoverflow : overflowMag = twoPow 1024 * twoPow 1074 := twoPow_add 1024 1074
  rw [hoverflow, unitsPerOne]
  exact Nat.mul_le_mul_right _ hfactor

theorem ofRatio_of_small {d : Decimal} (h : d.exponent < -((d.coefficient.log2 : Int) + 400)) :
    ofRatio d.negative d.ratio.1 d.ratio.2 = zero d.negative := by
  rw [ratio_of_neg (by omega)]
  refine ofRatio_eq_zero ?_ d.negative
  have hcoefficient : d.coefficient < twoPow (d.coefficient.log2 + 1) :=
    lt_twoPow_log2 d.coefficient
  have hpower : twoPow (1 + (d.coefficient.log2 + 1 + 1074)) ≤ tenPow (-d.exponent).toNat :=
    Nat.le_trans (twoPow_le_twoPow (by omega)) (twoPow_three_mul_le_tenPow _)
  rw [twoPow_add, twoPow_add _ 1074] at hpower
  refine Nat.lt_of_lt_of_le ?_ hpower
  refine Nat.mul_lt_mul_of_pos_left ?_ (twoPow_pos 1)
  exact Nat.mul_lt_mul_of_pos_right hcoefficient unitsPerOne_pos

/-- Every decimal is rounded from its exact value. -/
theorem nearest_eq_ofRatio (d : Decimal) :
    d.nearest = ofRatio d.negative d.ratio.1 d.ratio.2 := by
  unfold nearest
  by_cases hzero : d.coefficient = 0
  · rw [if_pos hzero, ofRatio_of_coefficient_eq_zero hzero]
  · rw [if_neg hzero]
    by_cases hlarge : 400 < d.exponent
    · rw [if_pos hlarge, ofRatio_of_large hzero hlarge]
    · rw [if_neg hlarge]
      by_cases hsmall : d.exponent < -((d.coefficient.log2 : Int) + 400)
      · rw [if_pos hsmall, ofRatio_of_small hsmall]
      · rw [if_neg hsmall]

theorem ratio_mul_tenPow (negative : Bool) (coefficient k : Nat) (exponent : Int) :
    (⟨negative, coefficient * tenPow k, exponent⟩ : Decimal).ratio.1 *
        (⟨negative, coefficient, exponent + k⟩ : Decimal).ratio.2 =
      (⟨negative, coefficient, exponent + k⟩ : Decimal).ratio.1 *
        (⟨negative, coefficient * tenPow k, exponent⟩ : Decimal).ratio.2 := by
  by_cases hexponent : 0 ≤ exponent
  · have hpower : (exponent + k).toNat = k + exponent.toNat := by omega
    rw [ratio_of_nonneg hexponent, ratio_of_nonneg (show 0 ≤ exponent + k by omega)]
    dsimp only
    rw [hpower, tenPow_add, Nat.mul_one, Nat.mul_one, Nat.mul_assoc]
  · by_cases hsum : 0 ≤ exponent + k
    · have hpower : k = (exponent + k).toNat + (-exponent).toNat := by omega
      rw [ratio_of_neg (show exponent < 0 by omega), ratio_of_nonneg hsum]
      dsimp only
      rw [Nat.mul_one, Nat.mul_assoc, ← tenPow_add, ← hpower]
    · have hpower : (-exponent).toNat = k + (-(exponent + k)).toNat := by omega
      rw [ratio_of_neg (show exponent < 0 by omega),
        ratio_of_neg (show exponent + k < 0 by omega)]
      dsimp only
      rw [hpower, tenPow_add, Nat.mul_assoc]

theorem nearest_mul_tenPow (negative : Bool) (coefficient k : Nat) (exponent : Int) :
    (⟨negative, coefficient * tenPow k, exponent⟩ : Decimal).nearest =
      (⟨negative, coefficient, exponent + k⟩ : Decimal).nearest := by
  rw [nearest_eq_ofRatio, nearest_eq_ofRatio]
  exact ofRatio_eq_of_mul_eq (ratio_den_pos _) (ratio_den_pos _)
    (ratio_mul_tenPow negative coefficient k exponent) negative

end Decimal

end Fenestration
