import Fenestration.Proofs.Number.NearestDouble
import Fenestration.Proofs.Number.ShownPlaces
import Fenestration.Proofs.Number.SpecialValues
import Mathlib.Tactic.FieldSimp

/-!
# Display rounding

Lengths are shown with one place and amounts with two.  What a text denotes is read off it as a
decimal, so that it can be compared with the exact value of the double that is shown.  Main
statement: of all decimals with these places the shown one is nearest, ties to the even digit, in
order and stable under reading back (`display_rounding`).
-/

namespace Fenestration

open Binary64 (ofSignedUnits signed unitsPerOne)

/-! ## What a text denotes -/

-- The number in a length, in front of the unit.
def millimetreNumber? (text : String) : Option Decimal :=
  Decimal.read? (text.toList.takeWhile (· ≠ ' '))

-- The number in an amount, behind the currency sign.
def currencyNumber? (text : String) : Option Decimal :=
  Decimal.read? (text.toList.drop 1)

/-- Of all decimals with so many places, `d` is nearest to `x`; if another one is equally near, the
last digit of `d` is even. -/
structure Decimal.IsRounded (d : Decimal) (places : Nat) (x : Rat) : Prop where
  exponent_eq : d.exponent = -places
  nearest (e : Decimal) : e.exponent = -places → |x - d.value| ≤ |x - e.value|
  even_of_tie (e : Decimal) : e.exponent = -places → e.value ≠ d.value →
    |x - e.value| = |x - d.value| → Even d.coefficient

/-- How doubles are shown: every finite double as a decimal with so many places, rounded from its
exact value and with its sign, and what is shown is near to the double, in the order of the doubles,
and shown again after it has been read back as a double. -/
structure ShowsRounded (places : Nat) (text : Binary64 → String)
    (number? : String → Option Decimal) : Prop where
  rounded (negative : Bool) {mag : Nat} (fits : Representable mag) :
    ∃ d, number? (text (.finite negative mag fits)) = some d ∧ d.negative = negative ∧
      d.IsRounded places (ofSignedUnits negative mag)
  near (negative : Bool) {mag : Nat} (fits : Representable mag) {d : Decimal} :
    number? (text (.finite negative mag fits)) = some d →
      |ofSignedUnits negative mag - d.value| ≤ 1 / 2 / 10 ^ places
  ordered {x y : Binary64} {d e : Decimal} : x.isFinite = true → y.isFinite = true → x ≤ y →
    number? (text x) = some d → number? (text y) = some e → d.value ≤ e.value
  stable {x : Binary64} {d : Decimal} : x.isFinite = true → number? (text x) = some d →
    text d.nearest = text x

/-! ## Decimals with fixed places -/

theorem abs_sub_div_tenPow (places : Nat) (x : Rat) (units : Int) :
    |x - (units : Rat) / 10 ^ places| = |x * 10 ^ places - units| / 10 ^ places := by
  have hpos : (0 : Rat) < 10 ^ places := by positivity
  rw [sub_div' hpos.ne', abs_div, abs_of_pos hpos]

namespace Decimal

variable {places : Nat}

theorem value_eq_div {d : Decimal} (h : d.exponent = -places) :
    d.value = (signed d.negative d.coefficient : Rat) / 10 ^ places := by
  rw [value, h, zpow_neg, zpow_natCast, div_eq_mul_inv]

theorem abs_sub_value {d : Decimal} (h : d.exponent = -places) (x : Rat) :
    |x - d.value| = |x * 10 ^ places - signed d.negative d.coefficient| / 10 ^ places := by
  rw [value_eq_div h, abs_sub_div_tenPow]

theorem isRounded_of_isNearestEven {d : Decimal} {x : Rat} (h : d.exponent = -places)
    (hd : IsNearestEven (x * 10 ^ places) (signed d.negative d.coefficient)) :
    d.IsRounded places x where
  exponent_eq := h
  nearest e he := by
    rw [abs_sub_value h, abs_sub_value he]
    exact div_le_div_of_nonneg_right (hd.nearest _) (by positivity)
  even_of_tie e he hne htie := by
    have hpos : (0 : Rat) < 10 ^ places := by positivity
    rw [abs_sub_value h, abs_sub_value he, div_left_inj' hpos.ne'] at htie
    have hunits : signed e.negative e.coefficient ≠ signed d.negative d.coefficient := by
      intro heq
      rw [value_eq_div h, value_eq_div he, heq] at hne
      exact hne rfl
    have heven := hd.even_of_tie _ hunits htie
    rwa [← Int.natAbs_even, Binary64.natAbs_signed] at heven

end Decimal

/-! ## Shown doubles -/

namespace Binary64

/-- The decimal that a finite double is shown as. -/
def shown (places : Nat) (negative : Bool) (mag : Nat) : Decimal :=
  ⟨negative, roundToPlaces places mag unitsPerOne, -places⟩

theorem value_shown (places : Nat) (negative : Bool) (mag : Nat) :
    (shown places negative mag).value =
      (signed negative (roundToPlaces places mag unitsPerOne) : Rat) / 10 ^ places := by
  rw [shown, Decimal.value_eq_div rfl]

theorem read?_toPlaces {places : Nat} (hplaces : 0 < places) (negative : Bool) {mag : Nat}
    (fits : Representable mag) :
    Decimal.read? ((finite negative mag fits).toPlaces places) =
      some (shown places negative mag) :=
  read?_placesText hplaces negative _

theorem shown_isRounded (places : Nat) (negative : Bool) (mag : Nat) :
    (shown places negative mag).IsRounded places (ofSignedUnits negative mag) := by
  refine Decimal.isRounded_of_isNearestEven rfl ?_
  dsimp only [shown]
  exact isNearestEven_signed places negative mag

theorem abs_sub_shown_le (places : Nat) (negative : Bool) (mag : Nat) :
    |ofSignedUnits negative mag - (shown places negative mag).value| ≤ 1 / 2 / 10 ^ places := by
  rw [value_shown, abs_sub_div_tenPow]
  exact div_le_div_of_nonneg_right (isNearestEven_signed places negative mag).abs_sub_le
    (by positivity)

theorem ofSignedUnits_le {a b : Bool} {m n : Nat} {ha : Representable m} {hb : Representable n}
    (h : finite a m ha ≤ finite b n hb) : ofSignedUnits a m ≤ ofSignedUnits b n := by
  have hplaces : signed a m ≤ signed b n := of_decide_eq_true h
  exact div_le_div_of_nonneg_right (Int.cast_le.mpr hplaces) (Nat.cast_nonneg _)

theorem value_shown_le (places : Nat) {a b : Bool} {m n : Nat} {ha : Representable m}
    {hb : Representable n} (h : finite a m ha ≤ finite b n hb) :
    (shown places a m).value ≤ (shown places b n).value := by
  have hscaled : ofSignedUnits a m * 10 ^ places ≤ ofSignedUnits b n * 10 ^ places :=
    mul_le_mul_of_nonneg_right (ofSignedUnits_le h) (by positivity)
  have hunits := (isNearestEven_signed places a m).mono (isNearestEven_signed places b n) hscaled
  rw [value_shown, value_shown]
  exact div_le_div_of_nonneg_right (Int.cast_le.mpr hunits) (by positivity)

/-! ## Reading back -/

-- A distance between a decimal and a magnitude, in units of a double and in units of a place.
theorem abs_size_shown_sub (places : Nat) (negative : Bool) (mag n : Nat) :
    |(shown places negative mag).size * unitsPerOne - n| * (10 ^ places / unitsPerOne) =
      |(n : Rat) / unitsPerOne * 10 ^ places - roundToPlaces places mag unitsPerOne| := by
  have hpos : (0 : Rat) < unitsPerOne := Nat.cast_pos.mpr unitsPerOne_pos
  simp only [shown, Decimal.size, zpow_neg, zpow_natCast]
  generalize roundToPlaces places mag unitsPerOne = units
  generalize (unitsPerOne : Rat) = one at hpos ⊢
  have hfactor : (0 : Rat) < 10 ^ places / one := by positivity
  rw [abs_sub_comm (_ / _ * _), ← abs_of_pos hfactor, ← abs_mul]
  congr 1
  field_simp

/-- What is shown stands no farther from the double that it is read back as than from the double
that was shown, so both are rounded to it. -/
theorem roundToPlaces_of_isNearestMag {places : Nat} {negative : Bool} {mag mag' : Nat}
    (fits : Representable mag)
    (h : IsNearestMag ((shown places negative mag).size * unitsPerOne) mag') :
    roundToPlaces places mag' unitsPerOne = roundToPlaces places mag unitsPerOne := by
  have hfactor : (0 : Rat) ≤ 10 ^ places / unitsPerOne := by positivity
  have hnearer := mul_le_mul_of_nonneg_right (h.nearest mag fits.2) hfactor
  rw [abs_size_shown_sub, abs_size_shown_sub] at hnearer
  have hshown := isNearestEven_roundToPlaces places mag unitsPerOne_pos
  have hback := isNearestEven_roundToPlaces places mag' unitsPerOne_pos
  have hsame := hback.unique (hshown.of_abs_sub_le hnearer)
  exact_mod_cast hsame

-- What is shown is within half of one, whatever the places.
theorem abs_size_shown_sub_le (places : Nat) (negative : Bool) (mag : Nat) :
    |(shown places negative mag).size * unitsPerOne - mag| ≤ unitsPerOne / 2 := by
  have hpos : (0 : Rat) < unitsPerOne := Nat.cast_pos.mpr unitsPerOne_pos
  have hfactor : (1 : Rat) / unitsPerOne ≤ 10 ^ places / unitsPerOne :=
    div_le_div_of_nonneg_right (one_le_pow₀ (by norm_num)) hpos.le
  have hhalf := (isNearestEven_roundToPlaces places mag unitsPerOne_pos).abs_sub_le
  rw [Int.cast_natCast, ← abs_size_shown_sub places negative] at hhalf
  have hscaled := le_trans (mul_le_mul_of_nonneg_left hfactor (abs_nonneg _)) hhalf
  rwa [mul_one_div, div_le_iff₀ hpos, one_div_mul_eq_div] at hscaled

-- The magnitudes that overflow are farther away from a double than that.
theorem lt_overflowMag_of_isNearestMag {places : Nat} {negative : Bool} {mag mag' : Nat}
    (fits : Representable mag)
    (h : IsNearestMag ((shown places negative mag).size * unitsPerOne) mag') :
    mag' < overflowMag := by
  have hshown := abs_size_shown_sub_le places negative mag
  have hback := h.nearest mag fits.2
  generalize (shown places negative mag).size * (unitsPerOne : Rat) = size at hshown hback
  have hclose : (mag' : Rat) ≤ ((mag + unitsPerOne : Nat) : Rat) := by
    have hlow := neg_le_of_abs_le (le_trans hback hshown)
    have hhigh := le_of_abs_le hshown
    rw [Nat.cast_add]
    linarith
  have hnat : mag' ≤ mag + unitsPerOne := Nat.cast_le.mp hclose
  have hroom := add_spacing_le_overflowMag fits
  have hsmall : unitsPerOne < twoPow 2045 := twoPow_lt_twoPow (by decide)
  omega

theorem toPlaces_nearest_shown (places : Nat) (negative : Bool) {mag : Nat}
    (fits : Representable mag) :
    (shown places negative mag).nearest.toPlaces places =
      (finite negative mag fits).toPlaces places := by
  have hnearest := (shown places negative mag).nearest_isNearest
  cases hnearest' : (shown places negative mag).nearest with
  | nan =>
    rw [hnearest'] at hnearest
    cases hnearest
  | infinite sign =>
    rw [hnearest'] at hnearest
    cases hnearest with
    | overflow hmag hle => exact absurd (lt_overflowMag_of_isNearestMag fits hmag) (by omega)
  | finite sign mag' fits' =>
    rw [hnearest'] at hnearest
    cases hnearest with
    | finite _ hmag =>
      exact congrArg (placesText places negative) (roundToPlaces_of_isNearestMag fits hmag)

end Binary64

/-! ## Both displays -/

/-- What holds of the places of a double holds of a text that shows them between other things. -/
theorem showsRounded_of_toPlaces {places : Nat} (hplaces : 0 < places)
    {text : Binary64 → String} {number? : String → Option Decimal}
    (hread : ∀ negative mag fits, number? (text (.finite negative mag fits)) =
      Decimal.read? ((Binary64.finite negative mag fits).toPlaces places))
    (hshow : ∀ x y, x.toPlaces places = y.toPlaces places → text x = text y) :
    ShowsRounded places text number? := by
  have hshown (negative : Bool) {mag : Nat} (fits : Representable mag) :
      number? (text (.finite negative mag fits)) = some (Binary64.shown places negative mag) :=
    (hread negative mag fits).trans (Binary64.read?_toPlaces hplaces negative fits)
  constructor
  case rounded =>
    intro negative mag fits
    exact ⟨_, hshown negative fits, rfl, Binary64.shown_isRounded places negative mag⟩
  case near =>
    intro negative mag fits d hd
    obtain rfl := Option.some.inj ((hshown negative fits).symm.trans hd)
    exact Binary64.abs_sub_shown_le places negative mag
  case ordered =>
    intro x y d e hx hy hle hd he
    cases x <;> try contradiction
    cases y <;> try contradiction
    obtain rfl := Option.some.inj ((hshown _ _).symm.trans hd)
    obtain rfl := Option.some.inj ((hshown _ _).symm.trans he)
    exact Binary64.value_shown_le places hle
  case stable =>
    intro x d hx hd
    cases x <;> try contradiction
    obtain rfl := Option.some.inj ((hshown _ _).symm.trans hd)
    exact hshow _ _ (Binary64.toPlaces_nearest_shown places _ _)

theorem isNumeric_placesText (places : Nat) (negative : Bool) (units : Nat) :
    ∀ c ∈ placesText places negative units, IsNumeric c := by
  unfold placesText
  rw [List.forall_mem_append, List.forall_mem_append, List.forall_mem_cons]
  exact ⟨⟨Decimal.isNumeric_minusSign negative, (isDigits_digitsOf _).isNumeric⟩, by decide,
    (isDigits_padZeros_digitsOf _ _).isNumeric⟩

theorem IsNumeric.ne_space {c : Char} (h : IsNumeric c) : c ≠ ' ' :=
  h.forall (P := fun c => c ≠ ' ') (by decide) (by decide)

theorem millimetreNumber?_text (negative : Bool) {mag : Nat} (fits : Representable mag) :
    millimetreNumber? (millimetreText (.finite negative mag fits)) =
      Decimal.read? ((Binary64.finite negative mag fits).toPlaces 1) := by
  have hplain : ∀ c ∈ (Binary64.finite negative mag fits).toPlaces 1, decide (c ≠ ' ') = true :=
    fun c hc => decide_eq_true (isNumeric_placesText _ _ _ c hc).ne_space
  rw [millimetreNumber?, millimetreText, String.toList_append, String.toList_ofList,
    List.takeWhile_append_of_pos hplain]
  exact congrArg Decimal.read? (List.append_nil _)

theorem currencyNumber?_text (x : Binary64) :
    currencyNumber? (currencyText x) = Decimal.read? (x.toPlaces 2) := by
  have htext : (currencyText x).toList.drop 1 = x.toPlaces 2 := by simp [currencyText]
  rw [currencyNumber?, htext]

/-- **Display rounding is correct, keeps the order and is stable.**  A length is shown with one
place and an amount with two, each as the nearest decimal with these places, ties to the even
digit. -/
theorem display_rounding :
    ShowsRounded 1 millimetreText millimetreNumber? ∧
      ShowsRounded 2 currencyText currencyNumber? := by
  constructor
  · refine showsRounded_of_toPlaces Nat.one_pos (fun sign _ fits => ?_) (fun x y h => ?_)
    · exact millimetreNumber?_text sign fits
    · rw [millimetreText, h, millimetreText]
  · refine showsRounded_of_toPlaces Nat.two_pos (fun _ _ _ => ?_) (fun x y h => ?_)
    · exact currencyNumber?_text _
    · rw [currencyText, h, currencyText]

end Fenestration
