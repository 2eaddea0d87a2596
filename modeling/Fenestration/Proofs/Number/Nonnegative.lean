import Fenestration.Proofs.Number.ExactPlaces
import Fenestration.Proofs.Number.NearestDouble
import Fenestration.Proofs.Number.SpecialValues

/-!
# Numbers that are not negative

Sums, products and quotients of numbers that are not negative, where a result may overflow to
infinity or underflow to zero.  A sum is a number of the same kind again (`IsNonnegative.add`); a
product is one if each factor is finite or the other positive (`IsNonnegative.mul`), so that zero
never meets infinity; dividing by a count and subtracting from a finite number stay finite.
-/

namespace Fenestration

/-! ## Bounds that rounding keeps -/

section Bounds

variable {num den mag : Nat} (hden : 0 < den) (hdigits : HasDigits mag)
include hden hdigits

-- A magnitude on the other side of `mag` would be farther away than `mag` is.
theorem nearestMag_le (h : num ≤ mag * den) : nearestMag num den ≤ mag := by
  by_contra hgt
  have hmiss : miss num den (nearestMag num den) ≤ _ := miss_nearestMag_le hden hdigits
  have hmul := Nat.mul_lt_mul_of_pos_right (Nat.lt_of_not_le hgt) hden
  unfold miss at hmiss
  omega

theorem le_nearestMag (h : mag * den ≤ num) : mag ≤ nearestMag num den := by
  by_contra hgt
  have hmiss : miss num den (nearestMag num den) ≤ _ := miss_nearestMag_le hden hdigits
  have hmul := Nat.mul_lt_mul_of_pos_right (Nat.lt_of_not_le hgt) hden
  unfold miss at hmiss
  omega

end Bounds

namespace Binary64

/-- Not less than zero as a number, which nan is not. -/
def IsNonnegative (x : Binary64) : Prop :=
  ∃ n, x.place = some n ∧ 0 ≤ n

/-- A positive number that is not infinite. -/
structure IsFinitePositive (x : Binary64) : Prop where
  finite : x.isFinite = true
  positive : x.IsPositive

/-- A finite number that is not negative. -/
structure IsFiniteNonnegative (x : Binary64) : Prop where
  finite : x.isFinite = true
  nonnegative : x.IsNonnegative

theorem IsPositive.isNonnegative {x : Binary64} (h : x.IsPositive) : x.IsNonnegative := by
  obtain ⟨n, hplace, hn⟩ := h
  exact ⟨n, hplace, Int.le_of_lt hn⟩

theorem IsFinitePositive.isFiniteNonnegative {x : Binary64} (h : x.IsFinitePositive) :
    x.IsFiniteNonnegative :=
  ⟨h.finite, h.positive.isNonnegative⟩

-- Only a zero may have the sign.
theorem isNonnegative_finite_iff {negative : Bool} {mag : Nat} {fits : Representable mag} :
    (finite negative mag fits).IsNonnegative ↔ (negative = true → mag = 0) := by
  cases negative with
  | false => simp [IsNonnegative, place, signed]
  | true =>
    simp only [IsNonnegative, place, signed, if_true, Option.some.injEq, exists_eq_left',
      true_imp_iff]
    omega

theorem isPositive_finite_iff {negative : Bool} {mag : Nat} {fits : Representable mag} :
    (finite negative mag fits).IsPositive ↔ negative = false ∧ 0 < mag := by
  cases negative <;> simp [IsPositive, place, signed]

theorem isNonnegative_infinite_iff {negative : Bool} :
    (infinite negative).IsNonnegative ↔ negative = false := by
  have hpos := overflowMag_pos
  cases negative with
  | false => exact iff_of_true ⟨overflowMag, rfl, Int.natCast_nonneg _⟩ rfl
  | true =>
    refine iff_of_false ?_ (by decide)
    rintro ⟨n, hplace, hn⟩
    have hsize : signed true overflowMag = n := Option.some.inj hplace
    rw [signed, if_pos rfl] at hsize
    omega

theorem not_isNonnegative_nan : ¬ nan.IsNonnegative := by
  rintro ⟨n, h, -⟩
  cases h

theorem isNonnegative_ofUnits {negative : Bool} {num den : Nat} (hden : 0 < den)
    (h : negative = true → num = 0) : (ofUnits negative num den).IsNonnegative := by
  have hzero : negative = true → nearestMag num den = 0 := by
    intro hnegative
    rw [h hnegative]
    exact nearestMag_eq_zero (by omega)
  unfold ofUnits
  by_cases hfits : nearestMag num den < overflowMag
  · rw [dif_pos hfits]
    exact isNonnegative_finite_iff.mpr hzero
  · rw [dif_neg hfits, isNonnegative_infinite_iff, ← Bool.not_eq_true]
    intro hnegative
    exact hfits (hzero hnegative ▸ overflowMag_pos)

-- A quotient of at least one unit does not underflow.
theorem isPositive_ofUnits {num den : Nat} (hden : 0 < den) (h : den ≤ num) :
    (ofUnits false num den).IsPositive := by
  have hone : HasDigits 1 := ⟨1, 0, by decide, rfl⟩
  have hmag : 1 ≤ nearestMag num den := le_nearestMag hden hone (by rwa [Nat.one_mul])
  unfold ofUnits
  by_cases hfits : nearestMag num den < overflowMag
  · rw [dif_pos hfits]
    exact isPositive_finite_iff.mpr ⟨rfl, hmag⟩
  · rw [dif_neg hfits]
    exact ⟨overflowMag, rfl, Int.natCast_pos.mpr overflowMag_pos⟩

theorem isFinite_ofUnits_of_le {negative : Bool} {num den mag : Nat} (hden : 0 < den)
    (fits : Representable mag) (h : num ≤ mag * den) :
    (ofUnits negative num den).isFinite = true :=
  isFinite_ofUnits (Nat.lt_of_le_of_lt (nearestMag_le hden fits.2 h) fits.1)

theorem zero_le_iff {x : Binary64} : ((0 : Nat) : Binary64) ≤ x ↔ x.IsNonnegative := by
  rw [natCast_zero]
  change (zero false).le x = true ↔ _
  rw [Binary64.le, IsNonnegative]
  cases x.place with
  | none => simp
  | some n => simp [zero, place, signed]

theorem isFinitePositive_iff {x : Binary64} :
    x.IsFinitePositive ↔ x.isFinite = true ∧ ¬ x ≤ ((0 : Nat) : Binary64) := by
  rw [not_le_zero_iff]
  constructor
  · rintro ⟨hfinite, hpositive⟩
    exact ⟨hfinite, .inr hpositive⟩
  · rintro ⟨hfinite, hpositive⟩
    exact ⟨hfinite, hpositive.resolve_left (ne_nan_of_isFinite hfinite)⟩

theorem isFiniteNonnegative_iff {x : Binary64} :
    x.IsFiniteNonnegative ↔ x.isFinite = true ∧ ((0 : Nat) : Binary64) ≤ x := by
  rw [zero_le_iff]
  exact ⟨fun ⟨hfinite, hx⟩ => ⟨hfinite, hx⟩, fun ⟨hfinite, hx⟩ => ⟨hfinite, hx⟩⟩

instance : DecidablePred IsFinitePositive :=
  fun _ => decidable_of_iff _ isFinitePositive_iff.symm

instance : DecidablePred IsFiniteNonnegative :=
  fun _ => decidable_of_iff _ isFiniteNonnegative_iff.symm

/-! ## Sums -/

theorem finite_add_finite (a b : Bool) {m n : Nat} (hm : Representable m) (hn : Representable n) :
    (.finite a m hm + .finite b n hn : Binary64) =
      if signed a m + signed b n = 0 then zero (a && b)
      else ofUnits (signed a m + signed b n < 0) (signed a m + signed b n).natAbs 1 :=
  rfl

theorem IsNonnegative.signed_nonneg {negative : Bool} {mag : Nat} {fits : Representable mag}
    (h : (finite negative mag fits).IsNonnegative) : 0 ≤ signed negative mag := by
  obtain ⟨n, hplace, hn⟩ := h
  cases hplace
  exact hn

theorem IsNonnegative.add {x y : Binary64} (hx : x.IsNonnegative) (hy : y.IsNonnegative) :
    (x + y).IsNonnegative := by
  cases x with
  | nan => exact absurd hx not_isNonnegative_nan
  | infinite a =>
    obtain rfl := isNonnegative_infinite_iff.mp hx
    cases y with
    | nan => exact absurd hy not_isNonnegative_nan
    | infinite b =>
      obtain rfl := isNonnegative_infinite_iff.mp hy
      exact hx
    | finite b n hn => exact hx
  | finite a m hm =>
    cases y with
    | nan => exact absurd hy not_isNonnegative_nan
    | infinite b => exact hy
    | finite b n hn =>
      have ha := hx.signed_nonneg
      have hb := hy.signed_nonneg
      rw [finite_add_finite]
      by_cases hzero : signed a m + signed b n = 0
      · rw [if_pos hzero]
        exact isNonnegative_finite_iff.mpr fun _ => rfl
      · rw [if_neg hzero]
        refine isNonnegative_ofUnits Nat.one_pos fun hnegative => ?_
        rw [decide_eq_true_eq] at hnegative
        omega

/-! ## Products -/

/-- A product is not negative if neither factor is and each is finite or the other one positive. -/
theorem IsNonnegative.mul {x y : Binary64} (hx : x.IsNonnegative) (hy : y.IsNonnegative)
    (hfirst : x.isFinite = true ∨ y.IsPositive) (hsecond : y.isFinite = true ∨ x.IsPositive) :
    (x * y).IsNonnegative := by
  cases x with
  | nan => exact absurd hx not_isNonnegative_nan
  | infinite a =>
    obtain rfl := isNonnegative_infinite_iff.mp hx
    cases y with
    | nan => exact absurd hy not_isNonnegative_nan
    | infinite b =>
      obtain rfl := isNonnegative_infinite_iff.mp hy
      exact hx
    | finite b n hn =>
      obtain ⟨rfl, hpos⟩ := isPositive_finite_iff.mp (hfirst.resolve_left (by decide))
      change (if n = 0 then nan else infinite false).IsNonnegative
      rw [if_neg (by omega)]
      exact hx
  | finite a m hm =>
    cases y with
    | nan => exact absurd hy not_isNonnegative_nan
    | infinite b =>
      obtain rfl := isNonnegative_infinite_iff.mp hy
      obtain ⟨rfl, hpos⟩ := isPositive_finite_iff.mp (hsecond.resolve_left (by decide))
      change (if m = 0 then nan else infinite false).IsNonnegative
      rw [if_neg (by omega)]
      exact hy
    | finite b n hn =>
      rw [isNonnegative_finite_iff] at hx hy
      rw [finite_mul_finite]
      refine isNonnegative_ofUnits unitsPerOne_pos fun hsign => ?_
      cases a with
      | true => rw [hx rfl, Nat.zero_mul]
      | false => rw [hy (by simpa using hsign), Nat.mul_zero]

-- At a positive rate neither zero nor infinity is lost.
theorem IsNonnegative.mul_rate {x rate : Binary64} (hx : x.IsNonnegative)
    (hrate : rate.IsFinitePositive) : (x * rate).IsNonnegative :=
  hx.mul hrate.positive.isNonnegative (.inr hrate.positive) (.inl hrate.finite)

theorem IsFiniteNonnegative.mul {x y : Binary64} (hx : x.IsFiniteNonnegative)
    (hy : y.IsFiniteNonnegative) : (x * y).IsNonnegative :=
  hx.nonnegative.mul hy.nonnegative (.inl hx.finite) (.inl hy.finite)

/-! ## Counts -/

-- Said for any conversion, so that the units of one are not multiplied out.
theorem natCast_mk (f : Nat → Binary64) (n : Nat) : @Nat.cast Binary64 ⟨f⟩ n = f n :=
  rfl

theorem natCast_eq_ofUnits (n : Nat) : (n : Binary64) = ofUnits false (n * unitsPerOne) 1 := by
  have hcast : (n : Binary64) = ofRatio false n 1 := natCast_mk (fun n => ofRatio false n 1) n
  rw [hcast, ofRatio]

theorem isNonnegative_natCast (n : Nat) : (n : Binary64).IsNonnegative := by
  rw [natCast_eq_ofUnits]
  exact isNonnegative_ofUnits Nat.one_pos fun h => by cases h

/-- Counts below this one are finite as doubles. -/
def countLimit : Nat := twoPow 1023

theorem isFinite_natCast {n : Nat} (h : n < countLimit) : (n : Binary64).isFinite = true := by
  have fits : Representable (1 * twoPow 2097) :=
    ⟨by decide +kernel, hasDigits_of_le 2097 (by decide)⟩
  rw [natCast_eq_ofUnits]
  refine isFinite_ofUnits_of_le Nat.one_pos fits ?_
  have hpower : twoPow 2097 = twoPow 1023 * twoPow 1074 := twoPow_add 1023 1074
  rw [Nat.mul_one, Nat.one_mul, hpower, unitsPerOne]
  exact Nat.mul_le_mul_right _ (Nat.le_of_lt h)

/-! ## Quotients -/

-- A positive count, unless it is infinite as a double, is at least one.
theorem natCast_eq_finite_or_infinite {n : Nat} (h : 0 < n) :
    (∃ mag fits, (n : Binary64) = .finite false mag fits ∧ unitsPerOne ≤ mag) ∨
      (n : Binary64) = .infinite false := by
  have hdigits : HasDigits unitsPerOne := one_fits.2
  have hle : unitsPerOne ≤ nearestMag (n * unitsPerOne) 1 := by
    refine le_nearestMag Nat.one_pos hdigits ?_
    rw [Nat.mul_one]
    exact Nat.le_mul_of_pos_left _ h
  rw [natCast_eq_ofUnits, ofUnits]
  by_cases hfits : nearestMag (n * unitsPerOne) 1 < overflowMag
  · rw [dif_pos hfits]
    exact .inl ⟨_, _, rfl, hle⟩
  · rw [dif_neg hfits]
    exact .inr rfl

theorem finite_div_finite (a b : Bool) {m n : Nat} (hm : Representable m) (hn : Representable n)
    (hpos : n ≠ 0) :
    (.finite a m hm / .finite b n hn : Binary64) = ofUnits (a ^^ b) (m * unitsPerOne) n := by
  change (if n = 0 then _ else ofUnits (a ^^ b) (m * unitsPerOne) n) = _
  rw [if_neg hpos]

/-- A share of a finite number is finite, however many shares there are. -/
theorem IsFiniteNonnegative.div_natCast {x : Binary64} (hx : x.IsFiniteNonnegative) {n : Nat}
    (hn : 0 < n) : (x / (n : Binary64)).IsFiniteNonnegative := by
  obtain ⟨hfinite, hx⟩ := hx
  cases x with
  | finite a m hm =>
    rw [isNonnegative_finite_iff] at hx
    rcases natCast_eq_finite_or_infinite hn with ⟨mag, fits, hcast, hle⟩ | hcast
    · have hpos : 0 < mag := Nat.lt_of_lt_of_le unitsPerOne_pos hle
      rw [hcast, finite_div_finite a false hm fits (Nat.ne_of_gt hpos), Bool.xor_false]
      refine ⟨isFinite_ofUnits_of_le hpos hm (Nat.mul_le_mul_left m hle),
        isNonnegative_ofUnits hpos fun hnegative => ?_⟩
      rw [hx hnegative, Nat.zero_mul]
    · rw [hcast]
      exact ⟨rfl, isNonnegative_finite_iff.mpr fun _ => rfl⟩
  | _ => cases hfinite

/-! ## Differences -/

-- Between two numbers that are not negative the distance is no greater than the greater one.
theorem isFinite_sub {x y : Binary64} (hx : x.IsFiniteNonnegative) (hy : y.IsFiniteNonnegative) :
    (x - y).isFinite = true := by
  obtain ⟨hxFinite, hx⟩ := hx
  obtain ⟨hyFinite, hy⟩ := hy
  cases x with
  | finite a m hm =>
    cases y with
    | finite b n hn =>
      have ha := hx.signed_nonneg
      have hb := hy.signed_nonneg
      have hneg : signed (!b) n = -signed b n := by cases b <;> simp [signed]
      have hdistance : (signed a m + signed (!b) n).natAbs ≤ max m n * 1 := by
        have hm : (signed a m).natAbs = m := natAbs_signed a m
        have hn : (signed b n).natAbs = n := natAbs_signed b n
        omega
      have fits : Representable (max m n) := by
        rcases Nat.le_total m n with h | h
        · rwa [Nat.max_eq_right h]
        · rwa [Nat.max_eq_left h]
      change (.finite a m hm + .finite (!b) n hn : Binary64).isFinite = true
      rw [finite_add_finite]
      split
      · rfl
      · exact isFinite_ofUnits_of_le Nat.one_pos fits hdistance
    | _ => cases hyFinite
  | _ => cases hxFinite

-- What exceeds one is positive, however little it is.
theorem sub_one_isFinitePositive {x : Binary64} (hx : x.isFinite = true)
    (h : ¬ x ≤ ((1 : Nat) : Binary64)) : (x - ((1 : Nat) : Binary64)).IsFinitePositive := by
  refine ⟨sub_one_isFinite_iff.mpr hx, ?_⟩
  cases x with
  | finite a m hm =>
    have hlt : (unitsPerOne : Int) < signed a m := by
      rw [natCast_one] at h
      by_contra hle
      exact h (decide_eq_true (Int.not_lt.mp hle))
    rw [finite_sub_one, if_neg (by omega), decide_eq_false (by omega)]
    exact isPositive_ofUnits Nat.one_pos (by omega)
  | _ => cases hx

end Binary64

end Fenestration
