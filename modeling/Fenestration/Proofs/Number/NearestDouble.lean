import Fenestration.Proofs.Number.Nearest
import Fenestration.Proofs.Number.NearestInteger
import Mathlib.Tactic.Linarith

/-!
# The nearest double

What rounding to a double is, said without the algorithm: among all magnitudes of at most 53
digits the nearest one is taken, of two equally near ones the one with an even last digit, and
what is then too large for a double becomes infinite.  Main statements: rounding of a quotient
(`isNearestMag_nearestMag`) and of a decimal (`Decimal.nearest_isNearest`) does this.
-/

namespace Fenestration

/-- Of the magnitudes of at most 53 digits, `mag` is nearest to `size` units; if another one is
equally near, the last digit of `mag` is even. -/
structure IsNearestMag (size : Rat) (mag : Nat) : Prop where
  hasDigits : HasDigits mag
  nearest (n : Nat) : HasDigits n → |size - mag| ≤ |size - n|
  even_of_tie (n : Nat) : HasDigits n → n ≠ mag → |size - n| = |size - mag| →
    Even (mag / spacing mag)

/-- The double with the given sign that a size is rounded to. -/
inductive Binary64.IsNearest (negative : Bool) (size : Rat) : Binary64 → Prop
  | finite {mag : Nat} (fits : Representable mag) :
      IsNearestMag (size * unitsPerOne) mag → IsNearest negative size (.finite negative mag fits)
  | overflow {mag : Nat} :
      IsNearestMag (size * unitsPerOne) mag → overflowMag ≤ mag →
        IsNearest negative size (.infinite negative)

/-! ## Magnitudes around a quotient -/

-- A magnitude of 53 digits is a multiple of the spacing around `q`, or it lies below a power of two
-- that `q` reaches.
theorem spacing_dvd_or_lt {n : Nat} (q : Nat) (h : HasDigits n) :
    spacing q ∣ n ∨ n < twoPow 52 * spacing q ∧ twoPow 52 * spacing q ≤ q := by
  have hpower : twoPow 52 * spacing q = twoPow (52 + (q.log2 - 52)) := (twoPow_add _ _).symm
  by_cases hlt : n < twoPow 52 * spacing q
  · by_cases hsmall : q.log2 ≤ 52
    · have hone : spacing q = 1 := congrArg twoPow (Nat.sub_eq_zero_of_le hsmall)
      rw [hone]
      exact .inl (Nat.one_dvd n)
    · have hne : q ≠ 0 := by
        rintro rfl
        exact hsmall (by decide)
      refine .inr ⟨hlt, ?_⟩
      rw [hpower, Nat.add_sub_of_le (by omega)]
      exact Nat.log2_self_le hne
  · have hge : twoPow (52 + (q.log2 - 52)) ≤ n := hpower ▸ Nat.le_of_not_lt hlt
    have hne : n ≠ 0 := Nat.ne_of_gt (Nat.lt_of_lt_of_le (twoPow_pos _) hge)
    have hlog : 52 + (q.log2 - 52) ≤ n.log2 := (Nat.le_log2 hne).mpr hge
    exact .inl (Nat.dvd_trans (twoPow_dvd (by omega)) (spacing_dvd h))

theorem miss_mul (num den n k : Nat) : miss num den (n * k) = miss num (den * k) n := by
  unfold miss
  rw [Nat.mul_assoc, Nat.mul_comm k den]

-- Below a number that the quotient reaches, a magnitude is farther away than that number.
theorem miss_lt_miss_of_lt {num den m n : Nat} (hden : 0 < den) (hn : n < m)
    (hm : m ≤ num / den) : miss num den m < miss num den n := by
  have hmul : n * den < m * den := Nat.mul_lt_mul_of_pos_right hn hden
  have hnum : m * den ≤ num := (Nat.le_div_iff_mul_le hden).mp hm
  unfold miss
  omega

section Rounding

variable {num den : Nat} (hden : 0 < den)
include hden

theorem miss_nearestMag_le {n : Nat} (h : HasDigits n) :
    miss num den (nearestMag num den) ≤ miss num den n := by
  have hpos : 0 < den * spacing (num / den) := Nat.mul_pos hden (spacing_pos _)
  rw [nearestMag, miss_mul]
  rcases spacing_dvd_or_lt (num / den) h with ⟨c, rfl⟩ | ⟨hlt, hle⟩
  · rw [Nat.mul_comm (spacing _) c, miss_mul]
    exact miss_roundHalfEven_le num c hpos
  · refine Nat.le_of_lt (Nat.lt_of_le_of_lt ?_ (miss_lt_miss_of_lt hden hlt hle))
    rw [miss_mul]
    exact miss_roundHalfEven_le num (twoPow 52) hpos

-- The digits before the last one of the spacing: at most `2^53`, and at least `2^52` unless the
-- spacing is that of the smallest doubles.
theorem roundHalfEven_digits_le :
    roundHalfEven num (den * spacing (num / den)) ≤ twoPow 53 := by
  refine roundHalfEven_le (Nat.mul_pos hden (spacing_pos _)) ?_
  have hnum : num < den * (num / den + 1) := Nat.lt_mul_div_succ num hden
  refine Nat.le_trans (Nat.le_of_lt hnum) ?_
  rw [Nat.mul_left_comm]
  exact Nat.mul_le_mul_left den (lt_mul_spacing _)

theorem le_roundHalfEven_digits (h : 52 < (num / den).log2) :
    twoPow 52 ≤ roundHalfEven num (den * spacing (num / den)) := by
  have hne : num / den ≠ 0 := by
    intro hzero
    rw [hzero] at h
    exact absurd h (by decide)
  have htop : twoPow 52 * spacing (num / den) ≤ num / den := by
    rw [spacing, ← twoPow_add, Nat.add_sub_of_le (by omega)]
    exact Nat.log2_self_le hne
  refine le_roundHalfEven (Nat.mul_pos hden (spacing_pos _)) ?_
  rw [Nat.mul_left_comm, Nat.mul_comm den]
  exact (Nat.le_div_iff_mul_le hden).mp htop

end Rounding

theorem log2_mul_twoPow {r : Nat} (hr : r ≠ 0) (k : Nat) : (r * twoPow k).log2 = r.log2 + k := by
  have hne : r * twoPow k ≠ 0 := Nat.mul_ne_zero hr (Nat.ne_of_gt (twoPow_pos k))
  rw [Nat.log2_eq_iff hne]
  have hlow : twoPow r.log2 ≤ r := Nat.log2_self_le hr
  have hhigh : r < twoPow (r.log2 + 1) := lt_twoPow_log2 r
  change twoPow (r.log2 + k) ≤ _ ∧ _ < twoPow (r.log2 + k + 1)
  rw [Nat.add_right_comm, twoPow_add, twoPow_add _ k]
  exact ⟨Nat.mul_le_mul_right _ hlow, Nat.mul_lt_mul_of_pos_right hhigh (twoPow_pos k)⟩

-- With all its digits in use, or with the smallest spacing, a magnitude has the spacing that it is
-- counted in.
theorem spacing_mul_twoPow {r k : Nat} (hlt : r < twoPow 53) (h : k = 0 ∨ twoPow 52 ≤ r) :
    spacing (r * twoPow k) = twoPow k := by
  unfold spacing
  congr 1
  rcases Nat.eq_zero_or_pos r with rfl | hpos
  · have hzero : ¬ twoPow 52 ≤ 0 := Nat.not_le.mpr (twoPow_pos 52)
    rw [Nat.zero_mul, h.resolve_right hzero]
    decide
  · have hne : r ≠ 0 := Nat.ne_of_gt hpos
    have hlog : r.log2 < 53 := (log2_lt_iff hne).mpr hlt
    rw [log2_mul_twoPow hne]
    rcases h with rfl | hge
    · omega
    · have hfull : 52 ≤ r.log2 := (Nat.le_log2 hne).mpr hge
      omega

theorem even_div_spacing {r k : Nat} (heven : Even r) (hle : r ≤ twoPow 53)
    (h : k = 0 ∨ twoPow 52 ≤ r) : Even (r * twoPow k / spacing (r * twoPow k)) := by
  rcases Nat.lt_or_eq_of_le hle with hlt | rfl
  · rw [spacing_mul_twoPow hlt h, Nat.mul_div_cancel _ (twoPow_pos k)]
    exact heven
  · -- A carry past the last digit leaves a power of two.
    have hcarry : twoPow 53 * twoPow k = twoPow 52 * twoPow (k + 1) := by
      rw [← twoPow_add, ← twoPow_add]
      congr 1
      omega
    have hhalf : twoPow 52 < twoPow 53 := by decide
    rw [hcarry, spacing_mul_twoPow hhalf (.inr (Nat.le_refl _)),
      Nat.mul_div_cancel _ (twoPow_pos _)]
    decide

theorem even_nearestMag_of_miss_eq {num den n : Nat} (hden : 0 < den) (h : HasDigits n)
    (hne : n ≠ nearestMag num den) (hmiss : miss num den n = miss num den (nearestMag num den)) :
    Even (nearestMag num den / spacing (nearestMag num den)) := by
  have hpos : 0 < den * spacing (num / den) := Nat.mul_pos hden (spacing_pos _)
  rcases spacing_dvd_or_lt (num / den) h with ⟨c, rfl⟩ | ⟨hlt, hle⟩
  · have hdigits : c ≠ roundHalfEven num (den * spacing (num / den)) := by
      rintro rfl
      exact hne (Nat.mul_comm _ _)
    rw [nearestMag, Nat.mul_comm (spacing _) c, miss_mul, miss_mul] at hmiss
    have heven := roundHalfEven_even_of_miss_eq hpos hdigits hmiss
    refine even_div_spacing heven (roundHalfEven_digits_le hden) ?_
    by_cases hlog : (num / den).log2 ≤ 52
    · exact .inl (Nat.sub_eq_zero_of_le hlog)
    · exact .inr (le_roundHalfEven_digits hden (Nat.lt_of_not_le hlog))
  · have hhalf : twoPow 52 ≤ twoPow 53 := twoPow_le_twoPow (by decide)
    have hpower : HasDigits (twoPow 52 * spacing (num / den)) := hasDigits_of_le _ hhalf
    have hfar := miss_lt_miss_of_lt hden hlt hle
    have hnear : miss num den (nearestMag num den) ≤ _ := miss_nearestMag_le hden hpower
    omega

/-- Rounding a quotient yields the nearest magnitude. -/
theorem isNearestMag_nearestMag (num : Nat) {den : Nat} (hden : 0 < den) :
    IsNearestMag ((num : Rat) / den) (nearestMag num den) where
  hasDigits := nearestMag_hasDigits num den
  nearest n h := by
    rw [abs_sub_eq_miss_div _ _ hden, abs_sub_eq_miss_div _ _ hden]
    exact div_le_div_of_nonneg_right (Nat.cast_le.mpr (miss_nearestMag_le hden h))
      (Nat.cast_nonneg den)
  even_of_tie n h hne htie := by
    rw [abs_sub_eq_miss_div _ _ hden, abs_sub_eq_miss_div _ _ hden,
      div_left_inj' (Nat.cast_ne_zero.mpr (Nat.ne_of_gt hden))] at htie
    exact even_nearestMag_of_miss_eq hden h hne (Nat.cast_inj.mp htie)

/-! ## No other magnitude -/

theorem spacing_dvd_spacing {m n : Nat} (h : m ≤ n) : spacing m ∣ spacing n := by
  refine twoPow_dvd (Nat.sub_le_sub_right ?_ 52)
  rcases Nat.eq_zero_or_pos m with rfl | hpos
  · exact Nat.zero_le _
  · have hm : m ≠ 0 := Nat.ne_of_gt hpos
    exact (Nat.le_log2 (Nat.ne_of_gt (Nat.lt_of_lt_of_le hpos h))).mpr
      (Nat.le_trans (Nat.log2_self_le hm) h)

-- The next magnitude of 53 digits is one spacing away.
theorem add_spacing_hasDigits {mag : Nat} (h : HasDigits mag) : HasDigits (mag + spacing mag) := by
  obtain ⟨c, hc⟩ := spacing_dvd h
  have hlt : spacing mag * c < spacing mag * twoPow 53 := by
    rw [← hc, Nat.mul_comm]
    exact lt_mul_spacing mag
  have hdigits : c + 1 ≤ twoPow 53 := Nat.lt_of_mul_lt_mul_left hlt
  have hsum : mag + spacing mag = (c + 1) * spacing mag := by
    rw [Nat.succ_mul, Nat.mul_comm c, ← hc]
  rw [hsum]
  exact hasDigits_of_le _ hdigits

theorem add_spacing_le {m n : Nat} (hm : HasDigits m) (hn : HasDigits n) (h : m < n) :
    m + spacing m ≤ n := by
  have hdvd : spacing m ∣ n :=
    Nat.dvd_trans (spacing_dvd_spacing (Nat.le_of_lt h)) (spacing_dvd hn)
  have hdiff : spacing m ∣ n - m := Nat.dvd_sub hdvd (spacing_dvd hm)
  have hle := Nat.le_of_dvd (by omega) hdiff
  omega

theorem two_mul_spacing_dvd {mag : Nat} (h : HasDigits mag) (heven : Even (mag / spacing mag)) :
    2 * spacing mag ∣ mag := by
  obtain ⟨c, hc⟩ := heven
  have hmag := Nat.div_mul_cancel (spacing_dvd h)
  rw [hc, ← Nat.two_mul, Nat.mul_right_comm] at hmag
  exact ⟨c, hmag.symm⟩

-- Of two neighbours only one has an even last digit.
theorem IsNearestMag.not_lt {size : Rat} {m n : Nat} (hm : IsNearestMag size m)
    (hn : IsNearestMag size n) : ¬ m < n := by
  intro hlt
  have hcast : (m : Rat) < n := Nat.cast_lt.mpr hlt
  have htie : |size - n| = |size - m| :=
    le_antisymm (hn.nearest m hm.hasDigits) (hm.nearest n hn.hasDigits)
  have hmiddle : 2 * size = m + n := by
    rcases abs_eq_abs.mp htie with h | h <;> linarith
  have hnext := add_spacing_le hm.hasDigits hn.hasDigits hlt
  have hpos : 0 < spacing m := spacing_pos m
  have hspacing : n = m + spacing m := by
    by_contra hne
    -- A neighbour of `m` before `n` would be nearer than both.
    have hbetween : ((m + spacing m : Nat) : Rat) < n := Nat.cast_lt.mpr (by omega)
    have hafter : (m : Rat) < (m + spacing m : Nat) := Nat.cast_lt.mpr (by omega)
    have hnearer := hm.nearest _ (add_spacing_hasDigits hm.hasDigits)
    rw [abs_of_nonneg (show 0 ≤ size - m by linarith), le_abs] at hnearer
    rcases hnearer with h | h <;> linarith
  have hmEven := two_mul_spacing_dvd hm.hasDigits
    (hm.even_of_tie n hn.hasDigits (Nat.ne_of_gt hlt) htie)
  have hnEven := two_mul_spacing_dvd hn.hasDigits
    (hn.even_of_tie m hm.hasDigits (Nat.ne_of_lt hlt) htie.symm)
  have hdvd : 2 * spacing m ∣ m + spacing m := by
    rw [← hspacing]
    exact Nat.dvd_trans (Nat.mul_dvd_mul_left 2 (spacing_dvd_spacing (Nat.le_of_lt hlt))) hnEven
  have hself := Nat.le_of_dvd hpos ((Nat.dvd_add_right hmEven).mp hdvd)
  omega

/-- There is one nearest magnitude. -/
theorem IsNearestMag.unique {size : Rat} {m n : Nat} (hm : IsNearestMag size m)
    (hn : IsNearestMag size n) : m = n :=
  Nat.le_antisymm (Nat.le_of_not_lt (hn.not_lt hm)) (Nat.le_of_not_lt (hm.not_lt hn))

/-! ## Doubles -/

namespace Binary64

theorem ofUnits_isNearest (negative : Bool) (num : Nat) {den : Nat} (hden : 0 < den) {size : Rat}
    (h : size * unitsPerOne = num / den) : (ofUnits negative num den).IsNearest negative size := by
  have hmag : IsNearestMag (size * unitsPerOne) (nearestMag num den) :=
    h ▸ isNearestMag_nearestMag num hden
  unfold ofUnits
  by_cases hlt : nearestMag num den < overflowMag
  · rw [dif_pos hlt]
    exact .finite _ hmag
  · rw [dif_neg hlt]
    exact .overflow hmag (Nat.le_of_not_lt hlt)

theorem IsNearest.unique {negative : Bool} {size : Rat} {x y : Binary64}
    (hx : x.IsNearest negative size) (hy : y.IsNearest negative size) : x = y := by
  cases hx with
  | finite fits hmag =>
    cases hy with
    | finite fits' hmag' =>
      obtain rfl := hmag.unique hmag'
      rfl
    | overflow hmag' hle =>
      obtain rfl := hmag.unique hmag'
      exact absurd fits.1 (Nat.not_lt.mpr hle)
  | overflow hmag hle =>
    cases hy with
    | finite fits' hmag' =>
      obtain rfl := hmag.unique hmag'
      exact absurd fits'.1 (Nat.not_lt.mpr hle)
    | overflow hmag' hle' => rfl

end Binary64

namespace Decimal

/-- The exact number that a decimal stands for, without its sign. -/
def size (d : Decimal) : Rat :=
  d.coefficient * 10 ^ d.exponent

theorem size_eq_ratio (d : Decimal) : d.size = (d.ratio.1 : Rat) / d.ratio.2 := by
  have hpower (k : Nat) : ((tenPow k : Nat) : Rat) = 10 ^ k := Nat.cast_pow 10 k
  unfold size
  by_cases h : 0 ≤ d.exponent
  · obtain ⟨k, hk⟩ := Int.eq_ofNat_of_zero_le h
    rw [ratio_of_nonneg h, hk, Int.toNat_natCast, Nat.cast_mul, hpower, zpow_natCast,
      Nat.cast_one, div_one]
  · obtain ⟨k, hk⟩ := Int.exists_eq_neg_ofNat (show d.exponent ≤ 0 by omega)
    rw [ratio_of_neg (by omega), hk, neg_neg, Int.toNat_natCast, hpower, zpow_neg, zpow_natCast,
      div_eq_mul_inv]

/-- The double that a decimal is rounded to is the nearest one. -/
theorem nearest_isNearest (d : Decimal) : d.nearest.IsNearest d.negative d.size := by
  rw [nearest_eq_ofRatio]
  refine Binary64.ofUnits_isNearest d.negative _ d.ratio_den_pos ?_
  rw [size_eq_ratio, Nat.cast_mul, div_mul_eq_mul_div]

end Decimal

end Fenestration
