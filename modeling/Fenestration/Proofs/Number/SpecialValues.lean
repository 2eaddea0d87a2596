import Fenestration.Number.Binary64

/-!
# Special values

What nan, the infinities and the two zeros do to a comparison, a difference and a product.  Main
statements: what is not at most zero is positive or nan (`not_le_zero_iff`), a finite number less
another is nan only if the other is (`sub_eq_nan_iff`), and zero times a number is a zero just where
the number is finite (`zero_mul_isZero_iff`), with a sign just where the number has one
(`zero_mul_eq_zero_iff`).  Doubles that are the same number differ at most in the sign of a zero
(`eq_or_isZero_of_sameNumber`).
-/

namespace Fenestration

/-! ## Room below overflow -/

-- Rounding goes up by half a spacing at most.
theorem two_mul_nearestMag_le (num : Nat) : 2 * nearestMag num 1 ≤ 2 * num + spacing num := by
  have hnearest : nearestMag num 1 = roundHalfEven num (spacing num) * spacing num := by
    rw [nearestMag, Nat.div_one, Nat.one_mul]
  have hdiv : num / spacing num * spacing num + num % spacing num = num := Nat.div_add_mod' _ _
  rw [hnearest]
  rcases roundHalfEven_eq_or num (spacing num) with hdown | hup
  · rw [hdown]
    omega
  · have hhalf := le_two_mul_mod_of_roundHalfEven_eq hup
    rw [hup, Nat.add_mul, Nat.one_mul]
    omega

-- The greatest doubles leave a spacing of their own below the magnitudes that overflow.
theorem add_spacing_le_overflowMag {mag : Nat} (fits : Representable mag) :
    mag + twoPow 2045 ≤ overflowMag := by
  by_cases hsmall : mag < twoPow 2097
  · have hdouble : overflowMag = twoPow 2097 * twoPow 1 := twoPow_add 2097 1
    have htwo : twoPow 1 = 2 := rfl
    rw [htwo] at hdouble
    have hspacing : twoPow 2045 ≤ twoPow 2097 := twoPow_le_twoPow (by decide)
    omega
  · have hne : mag ≠ 0 := fun h => hsmall (h ▸ twoPow_pos 2097)
    have hupper : mag.log2 < 2098 := (log2_lt_iff hne).mpr fits.1
    have hlower : ¬ mag.log2 < 2097 := fun h => hsmall ((log2_lt_iff hne).mp h)
    have hlog : mag.log2 - 52 = 2045 := by omega
    obtain ⟨c, hc⟩ := spacing_dvd fits.2
    have hmag : mag = twoPow 2045 * c := by rwa [spacing, hlog] at hc
    have hoverflow : overflowMag = twoPow 2045 * twoPow 53 := twoPow_add 2045 53
    have hlt : c < twoPow 53 := by
      have hfits := fits.1
      rw [hmag, hoverflow] at hfits
      exact Nat.lt_of_mul_lt_mul_left hfits
    rw [hoverflow, hmag, ← Nat.mul_succ]
    exact Nat.mul_le_mul_left _ hlt

theorem nearestMag_lt_overflowMag {num mag n : Nat} (fits : Representable mag)
    (hn : n < twoPow 2044) (h : num ≤ mag + n) : nearestMag num 1 < overflowMag := by
  have hroom := add_spacing_le_overflowMag fits
  have hdouble : twoPow 2045 = twoPow 2044 * twoPow 1 := twoPow_add 2044 1
  have htwo : twoPow 1 = 2 := rfl
  rw [htwo] at hdouble
  have hspacing : spacing num ≤ twoPow 2045 := by
    refine twoPow_le_twoPow ?_
    rcases Nat.eq_zero_or_pos num with rfl | hpos
    · decide
    · have hlt : num < overflowMag := by omega
      have hlog : num.log2 < 2098 := (log2_lt_iff (Nat.ne_of_gt hpos)).mpr hlt
      omega
  have hround := two_mul_nearestMag_le num
  omega

namespace Binary64

theorem natCast_zero : ((0 : Nat) : Binary64) = zero false := by
  decide +kernel

theorem one_fits : Representable unitsPerOne := by
  refine ⟨by decide +kernel, 1, 1074, by decide, ?_⟩
  rw [Nat.one_mul, unitsPerOne]

theorem natCast_one : ((1 : Nat) : Binary64) = .finite false unitsPerOne one_fits := by
  decide +kernel

theorem ofUnits_ne_nan (negative : Bool) (num den : Nat) : ofUnits negative num den ≠ nan := by
  rw [ofUnits]
  split <;> exact fun h => by cases h

/-! ## Positive numbers -/

/-- Greater than zero as a number, which nan is not. -/
def IsPositive (x : Binary64) : Prop :=
  ∃ n, x.place = some n ∧ 0 < n

theorem not_isPositive_nan : ¬ nan.IsPositive := by
  rintro ⟨n, h, -⟩
  cases h

theorem le_zero_iff {x : Binary64} :
    x ≤ ((0 : Nat) : Binary64) ↔ ∃ n, x.place = some n ∧ n ≤ 0 := by
  rw [natCast_zero]
  change x.le (zero false) = true ↔ _
  rw [Binary64.le]
  cases x.place with
  | none => simp
  | some n => simp [zero, place, signed]

theorem exists_place {x : Binary64} (h : x ≠ nan) : ∃ n, x.place = some n := by
  cases x with
  | nan => exact absurd rfl h
  | infinite negative => exact ⟨_, rfl⟩
  | finite negative mag fits => exact ⟨_, rfl⟩

-- A comparison with zero that fails tells nothing about nan.
theorem not_le_zero_iff {x : Binary64} :
    ¬ x ≤ ((0 : Nat) : Binary64) ↔ x = nan ∨ x.IsPositive := by
  rw [le_zero_iff]
  by_cases hx : x = nan
  · subst hx
    exact iff_of_true (fun ⟨_, h, _⟩ => by cases h) (.inl rfl)
  · obtain ⟨n, hn⟩ := exists_place hx
    simp only [hn, Option.some.injEq, exists_eq_left', IsPositive, hx, false_or]
    exact Int.not_le

/-! ## Differences -/

theorem ne_nan_of_isFinite {x : Binary64} (h : x.isFinite = true) : x ≠ nan := by
  rintro rfl
  cases h

theorem sub_nan (x : Binary64) : x - nan = nan := by
  cases x <;> rfl

theorem sub_eq_nan_iff {x d : Binary64} (hx : x.isFinite = true) : x - d = nan ↔ d = nan := by
  refine ⟨fun h => ?_, fun h => h ▸ sub_nan x⟩
  cases x with
  | finite a m hm =>
    cases d with
    | nan => rfl
    | infinite b => cases h
    | finite b n hn =>
      change (if _ then zero _ else ofUnits _ _ 1) = nan at h
      split at h
      · cases h
      · exact absurd h (ofUnits_ne_nan _ _ _)
  | _ => cases hx

/-! ## Numbers without a sign -/

/-- Finite and without a sign: a positive number, or zero that is not negative. -/
def IsUnsigned (x : Binary64) : Prop :=
  ∃ mag fits, x = .finite false mag fits

theorem not_isUnsigned_of_not_isFinite {x : Binary64} (h : x.isFinite = false) :
    ¬ x.IsUnsigned := by
  rintro ⟨mag, fits, rfl⟩
  cases h

theorem not_isUnsigned_negative {mag : Nat} (fits : Representable mag) :
    ¬ (finite true mag fits).IsUnsigned := by
  rintro ⟨mag', fits', h⟩
  cases h

instance : DecidablePred IsUnsigned
  | .finite false mag fits => isTrue ⟨mag, fits, rfl⟩
  | .finite true _ fits => isFalse (not_isUnsigned_negative fits)
  | .infinite _ => isFalse (not_isUnsigned_of_not_isFinite rfl)
  | .nan => isFalse (not_isUnsigned_of_not_isFinite rfl)

theorem isFinite_ofUnits {negative : Bool} {num den : Nat}
    (h : nearestMag num den < overflowMag) : (ofUnits negative num den).isFinite = true := by
  rw [ofUnits, dif_pos h]
  rfl

theorem isUnsigned_ofUnits {num den : Nat} (h : nearestMag num den < overflowMag) :
    (ofUnits false num den).IsUnsigned := by
  rw [ofUnits, dif_pos h]
  exact ⟨_, _, rfl⟩

theorem not_isUnsigned_ofUnits {num den : Nat} : ¬ (ofUnits true num den).IsUnsigned := by
  rw [ofUnits]
  split
  · exact not_isUnsigned_negative _
  · exact not_isUnsigned_of_not_isFinite rfl

/-! ## What exceeds one -/

theorem finite_sub_one (negative : Bool) {mag : Nat} (fits : Representable mag) :
    .finite negative mag fits - ((1 : Nat) : Binary64) =
      if signed negative mag - unitsPerOne = 0 then zero (negative && true)
      else ofUnits (signed negative mag - unitsPerOne < 0)
        (signed negative mag - unitsPerOne).natAbs 1 := by
  rw [natCast_one]
  rfl

theorem one_le_finite_iff {negative : Bool} {mag : Nat} (fits : Representable mag) :
    ((1 : Nat) : Binary64) ≤ .finite negative mag fits ↔
      (unitsPerOne : Int) ≤ signed negative mag := by
  rw [natCast_one]
  change decide _ = true ↔ _
  rw [decide_eq_true_eq]
  rfl

-- The magnitude of a difference from one, before it is rounded.
theorem nearestMag_sub_one_lt (negative : Bool) {mag : Nat} (fits : Representable mag) :
    nearestMag (signed negative mag - unitsPerOne).natAbs 1 < overflowMag := by
  have hone : unitsPerOne < twoPow 2044 := by decide +kernel
  refine nearestMag_lt_overflowMag fits hone ?_
  rw [signed]
  split <;> omega

theorem sub_one_isFinite_iff {x : Binary64} :
    (x - ((1 : Nat) : Binary64)).isFinite = true ↔ x.isFinite = true := by
  cases x with
  | nan => rfl
  | infinite negative => rw [natCast_one]; rfl
  | finite negative mag fits =>
    rw [finite_sub_one]
    refine iff_of_true ?_ rfl
    split
    · rfl
    · exact isFinite_ofUnits (nearestMag_sub_one_lt negative fits)

-- The excess has no sign for the finite numbers from one on.
theorem sub_one_isUnsigned_iff {x : Binary64} :
    (x - ((1 : Nat) : Binary64)).IsUnsigned ↔
      x.isFinite = true ∧ ((1 : Nat) : Binary64) ≤ x := by
  cases x with
  | nan => exact iff_of_false (not_isUnsigned_of_not_isFinite rfl) (fun ⟨h, _⟩ => by cases h)
  | infinite negative =>
    rw [natCast_one]
    exact iff_of_false (not_isUnsigned_of_not_isFinite rfl) (fun ⟨h, _⟩ => by cases h)
  | finite negative mag fits =>
    have hone := unitsPerOne_pos
    have hround := nearestMag_sub_one_lt negative fits
    rw [one_le_finite_iff, finite_sub_one]
    rcases Int.lt_trichotomy (signed negative mag) unitsPerOne with hlt | heq | hgt
    · rw [if_neg (by omega), decide_eq_true (by omega)]
      exact iff_of_false not_isUnsigned_ofUnits (by omega)
    · have hnegative : negative = false := by
        cases negative with
        | false => rfl
        | true => simp only [signed, if_true] at heq; omega
      subst hnegative
      rw [if_pos (by omega)]
      exact iff_of_true ⟨_, _, rfl⟩ ⟨rfl, by omega⟩
    · rw [if_neg (by omega), decide_eq_false (by omega)]
      exact iff_of_true (isUnsigned_ofUnits hround) ⟨rfl, by omega⟩

/-! ## Zero times a number -/

/-- Zero, with or without a sign. -/
def IsZero (x : Binary64) : Prop :=
  ∃ negative, x = zero negative

theorem finite_mul_finite (a b : Bool) {m n : Nat} (hm : Representable m) (hn : Representable n) :
    (.finite a m hm * .finite b n hn : Binary64) = ofUnits (a ^^ b) (m * n) unitsPerOne := by
  change Binary64.mul _ _ = _
  rw [Binary64.mul]

theorem zero_mul_finite (negative : Bool) {mag : Nat} (fits : Representable mag) :
    zero false * .finite negative mag fits = zero negative := by
  have hzero : Representable 0 := ⟨overflowMag_pos, 0, 0, by decide, rfl⟩
  have hround : ofUnits negative (0 * unitsPerOne) unitsPerOne = .finite negative 0 hzero :=
    ofUnits_eq_finite hzero unitsPerOne_pos
  change finite false 0 hzero * finite negative mag fits = finite negative 0 hzero
  rw [finite_mul_finite, Bool.false_xor, Nat.zero_mul, ← hround, Nat.zero_mul]

theorem not_isZero_nan : ¬ nan.IsZero := by
  rintro ⟨negative, h⟩
  cases h

theorem zero_mul_of_not_isFinite {x : Binary64} (h : x.isFinite = false) :
    zero false * x = nan := by
  cases x with
  | nan => rfl
  | infinite negative => rfl
  | finite negative mag fits => cases h

theorem zero_mul_isZero_iff {x : Binary64} : (zero false * x).IsZero ↔ x.isFinite = true := by
  cases x with
  | finite negative mag fits => exact iff_of_true ⟨negative, zero_mul_finite negative fits⟩ rfl
  | _ =>
    rw [zero_mul_of_not_isFinite rfl]
    exact iff_of_false not_isZero_nan (fun h => by cases h)

theorem zero_mul_eq_nan_or_isZero (x : Binary64) :
    zero false * x = nan ∨ (zero false * x).IsZero := by
  cases hx : x.isFinite with
  | true => exact .inr (zero_mul_isZero_iff.mpr hx)
  | false => exact .inl (zero_mul_of_not_isFinite hx)

theorem zero_mul_eq_zero_iff {x : Binary64} : zero false * x = zero false ↔ x.IsUnsigned := by
  cases x with
  | finite negative mag fits =>
    rw [zero_mul_finite]
    cases negative with
    | false => exact iff_of_true rfl ⟨mag, fits, rfl⟩
    | true => exact iff_of_false (fun h => by cases h) (not_isUnsigned_negative fits)
  | _ =>
    rw [zero_mul_of_not_isFinite rfl]
    exact iff_of_false (fun h => by cases h) (not_isUnsigned_of_not_isFinite rfl)

theorem IsZero.add {x y : Binary64} (hx : x.IsZero) (hy : y.IsZero) : (x + y).IsZero := by
  obtain ⟨a, rfl⟩ := hx
  obtain ⟨b, rfl⟩ := hy
  cases a <;> cases b <;> exact ⟨_, rfl⟩

/-! ## The same number -/

theorem eq_of_signed_eq {a b : Bool} {m n : Nat} (h : signed a m = signed b n) :
    m = n ∧ (a = b ∨ m = 0) := by
  cases a <;> cases b <;> simp only [signed, if_true, Bool.false_eq_true, if_false] at h <;>
    simp <;> omega

-- Only zeros can be the same number without being the same double.
theorem eq_or_isZero_of_sameNumber {x y : Binary64} (h : x.sameNumber y = true) :
    x = y ∨ x.IsZero ∧ y.IsZero := by
  unfold sameNumber at h
  cases x with
  | nan => cases h
  | infinite a =>
    cases y with
    | nan => cases h
    | infinite b =>
      have hsign := (eq_of_signed_eq (eq_of_beq h)).2
      have hpos := overflowMag_pos
      exact .inl (congrArg infinite (hsign.resolve_right (by omega)))
    | finite b n fits =>
      have hsize := (eq_of_signed_eq (eq_of_beq h)).1
      have hlt := fits.1
      omega
  | finite a m hm =>
    cases y with
    | nan => cases h
    | infinite b =>
      have hsize := (eq_of_signed_eq (eq_of_beq h)).1
      have hlt := hm.1
      omega
    | finite b n hn =>
      obtain ⟨rfl, rfl | rfl⟩ := eq_of_signed_eq (eq_of_beq h)
      · exact .inl rfl
      · exact .inr ⟨⟨a, rfl⟩, b, rfl⟩

theorem sub_zero_of_not_le_zero {x : Binary64} (h : ¬ x ≤ ((0 : Nat) : Binary64))
    (negative : Bool) : x - zero negative = x := by
  cases x with
  | nan => rfl
  | infinite a => rfl
  | finite a m fits =>
    have hpos : 0 < signed a m := by
      have hplace := mt le_zero_iff.mpr h
      have hle : ¬ signed a m ≤ 0 := fun hle => hplace ⟨_, rfl, hle⟩
      omega
    have hzero : signed (!negative) 0 = 0 := by cases negative <;> rfl
    have hsign : decide (signed a m < 0) = a := by
      cases a with
      | false => exact decide_eq_false (by omega)
      | true => simp only [signed, if_true] at hpos; omega
    have hmag : (signed a m).natAbs = m * 1 := by
      cases a <;> simp [signed]
    change (if signed a m + signed (!negative) 0 = 0 then zero _
      else ofUnits (signed a m + signed (!negative) 0 < 0) _ 1) = _
    rw [hzero, Int.add_zero, if_neg (by omega), hsign, hmag]
    exact ofUnits_eq_finite fits Nat.one_pos

end Binary64

end Fenestration
