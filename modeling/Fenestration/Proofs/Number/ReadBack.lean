import Fenestration.Measure
import Fenestration.Proofs.Number.Nearest

/-!
# Number text read back

The text of a double is the text of its shortest decimal, and reading a measured size takes the text
apart again.  The decimal read need not be the one that was written, since zeros may have been
dropped or filled in, but both are the same number.  Main statements: `exists_read?_text`, that the
text of a decimal reads as a decimal with the same nearest double, and `Measure.ofJson_real`, that a
finite double given as a measured size is that size.
-/

namespace Fenestration

/-! ## Shortest decimals -/

namespace Shortest

theorem readsBack_of_search {readsBack : Decimal → Bool} {negative : Bool} {mag : Nat}
    {d : Decimal} (h : search readsBack negative mag = some d) : readsBack d = true := by
  obtain ⟨i, -, hgrid⟩ := List.exists_of_findSome?_eq_some h
  exact List.find?_some hgrid

-- All digits written: a unit is a whole number of times `10^-1074`.
theorem nearest_exact (negative : Bool) {mag : Nat} (fits : Representable mag) :
    (exact negative mag).nearest = .finite negative mag fits := by
  have hratio (coefficient : Nat) :
      (⟨negative, coefficient, -1074⟩ : Decimal).ratio = (coefficient, tenPow 1074) :=
    Decimal.ratio_of_neg (show (-1074 : Int) < 0 by decide)
  have hten (k : Nat) : Nat.pow 5 k * twoPow k = tenPow k := (Nat.mul_pow 5 2 k).symm
  unfold exact
  rw [Decimal.nearest_eq_ofRatio, hratio, Binary64.ofRatio, Binary64.unitsPerOne]
  generalize 1074 = k
  rw [Nat.mul_assoc, hten]
  exact Binary64.ofUnits_eq_finite fits (tenPow_pos k)

end Shortest

theorem Binary64.nearest_shortest (negative : Bool) {mag : Nat} (fits : Representable mag) :
    (shortest negative mag fits).nearest = .finite negative mag fits := by
  unfold shortest
  by_cases hmag : mag = 0
  · subst hmag
    rw [if_pos rfl]
    rfl
  · rw [if_neg hmag]
    cases hsearch : Shortest.search (fun d => d.nearest = .finite negative mag fits) negative
        mag with
    | none => exact Shortest.nearest_exact negative fits
    | some d => exact of_decide_eq_true (Shortest.readsBack_of_search hsearch)

/-! ## Digits -/

def IsDigits (cs : List Char) : Prop :=
  ∀ c ∈ cs, c.isDigit = true

theorem isDigits_digitsOf (n : Nat) : IsDigits (digitsOf n) :=
  fun _ hc => Nat.isDigit_of_mem_toDigits (by decide) (by decide) hc

theorem isDigits_replicate_zero (n : Nat) : IsDigits (List.replicate n '0') :=
  fun _ hc => (List.eq_of_mem_replicate hc) ▸ rfl

theorem IsDigits.append {as bs : List Char} (ha : IsDigits as) (hb : IsDigits bs) :
    IsDigits (as ++ bs) :=
  fun c hc => (List.mem_append.mp hc).elim (ha c) (hb c)

theorem IsDigits.of_subset {as bs : List Char} (h : IsDigits bs) (hsub : as ⊆ bs) : IsDigits as :=
  fun c hc => h c (hsub hc)

/-- The characters that the text of a decimal is made of. -/
def IsNumeric (c : Char) : Prop :=
  c.isDigit = true ∨ c ∈ ['.', '+', '-', 'e']

instance : DecidablePred IsNumeric :=
  fun _ => inferInstanceAs (Decidable (_ ∨ _))

theorem IsDigits.isNumeric {cs : List Char} (h : IsDigits cs) :
    ∀ c ∈ cs, IsNumeric c :=
  fun c hc => .inl (h c hc)

namespace Decimal

theorem readDigits_digitsOf (n : Nat) : readDigits (digitsOf n) = n :=
  Nat.ofDigitChars_ten_toDigits

theorem readDigits_append_zeros (ds : List Char) (k : Nat) :
    readDigits (ds ++ List.replicate k '0') = readDigits ds * tenPow k := by
  unfold readDigits
  rw [Nat.ofDigitChars_append, Nat.ofDigitChars_replicate_zero, Nat.mul_comm]
  rfl

theorem readDigits_zeros_append (k : Nat) (ds : List Char) :
    readDigits (List.replicate k '0' ++ ds) = readDigits ds := by
  unfold readDigits
  rw [Nat.ofDigitChars_append, Nat.ofDigitChars_replicate_zero, Nat.mul_zero]

theorem readDigits_append (as bs : List Char) :
    readDigits (as ++ bs) = readDigits as * tenPow bs.length + readDigits bs := by
  unfold readDigits
  rw [Nat.ofDigitChars_append, Nat.ofDigitChars_eq_ofDigitChars_zero, Nat.mul_comm]
  rfl

/-! ## The parts of a numeral -/

-- No more digits come first.
def StopsDigits (cs : List Char) : Prop :=
  ∀ c ∈ cs.head?, c.isDigit = false

theorem takeWhile_isDigit_append {ds tail : List Char} (hds : IsDigits ds)
    (htail : StopsDigits tail) : (ds ++ tail).takeWhile Char.isDigit = ds := by
  rw [List.takeWhile_append_of_pos hds]
  cases tail with
  | nil => simp
  | cons c rest => simp [htail c rfl]

theorem dropWhile_isDigit_append {ds tail : List Char} (hds : IsDigits ds)
    (htail : StopsDigits tail) : (ds ++ tail).dropWhile Char.isDigit = tail := by
  rw [List.dropWhile_append_of_pos hds]
  cases tail with
  | nil => simp
  | cons c rest => simp [htail c rfl]

theorem splitSign_minusSign (negative : Bool) {ds tail : List Char} (hne : ds ≠ [])
    (hds : IsDigits ds) :
    splitSign (minusSign negative ++ (ds ++ tail)) = (negative, ds ++ tail) := by
  cases negative with
  | true => rfl
  | false =>
    cases ds with
    | nil => exact absurd rfl hne
    | cons c rest =>
      have hc : c.isDigit = true := hds c List.mem_cons_self
      change splitSign (c :: (rest ++ tail)) = _
      unfold splitSign
      split
      · rename_i heq
        cases heq
        exact absurd hc (by decide)
      · rename_i heq
        cases heq
        exact absurd hc (by decide)
      · rfl

theorem splitFraction_point {ds tail : List Char} (hds : IsDigits ds) (htail : StopsDigits tail) :
    splitFraction ('.' :: (ds ++ tail)) = (ds, tail) := by
  rw [splitFraction, takeWhile_isDigit_append hds htail, dropWhile_isDigit_append hds htail]

/-- A sign, digits, a fraction and an exponent are read as what they are. -/
theorem read?_of_splitSign {text : List Char} {negative : Bool}
    {whole tail fraction rest : List Char} {exponent : Int}
    (hsign : splitSign text = (negative, whole ++ tail)) (hwhole : IsDigits whole)
    (htail : StopsDigits tail) (hfraction : splitFraction tail = (fraction, rest))
    (hne : whole ≠ [] ∨ fraction ≠ []) (hexponent : readExponent rest = some exponent) :
    read? text =
      some ⟨negative, readDigits (whole ++ fraction), exponent - fraction.length⟩ := by
  have hempty : (whole.isEmpty && fraction.isEmpty) = false := by
    rw [Bool.and_eq_false_iff, List.isEmpty_eq_false_iff, List.isEmpty_eq_false_iff]
    exact hne
  unfold read?
  rw [hsign]
  dsimp only
  rw [takeWhile_isDigit_append hwhole htail, dropWhile_isDigit_append hwhole htail, hfraction,
    hexponent]
  dsimp only
  rw [hempty]
  rfl

theorem read?_parts (negative : Bool) {whole tail fraction rest : List Char} {exponent : Int}
    (hne : whole ≠ []) (hwhole : IsDigits whole) (htail : StopsDigits tail)
    (hfraction : splitFraction tail = (fraction, rest))
    (hexponent : readExponent rest = some exponent) :
    read? (minusSign negative ++ (whole ++ tail)) =
      some ⟨negative, readDigits (whole ++ fraction), exponent - fraction.length⟩ :=
  read?_of_splitSign (splitSign_minusSign negative hne hwhole) hwhole htail hfraction (.inl hne)
    hexponent

-- Digits with a point among them, and no exponent.
theorem read?_point (negative : Bool) {whole fraction : List Char} (hne : whole ≠ [])
    (hwhole : IsDigits whole) (hfraction : IsDigits fraction) :
    read? (minusSign negative ++ (whole ++ '.' :: fraction)) =
      some ⟨negative, readDigits (whole ++ fraction), -(fraction.length : Int)⟩ := by
  have hstop : StopsDigits ('.' :: fraction) := by rintro _ ⟨⟩; rfl
  have hsplit : splitFraction ('.' :: fraction) = (fraction, []) := by
    have hend : StopsDigits [] := by rintro _ ⟨⟩
    have hpoint := splitFraction_point hfraction hend
    rwa [List.append_nil] at hpoint
  have hexponent : readExponent [] = some 0 := rfl
  have hread := read?_parts negative hne hwhole hstop hsplit hexponent
  rwa [Int.zero_sub] at hread

theorem readExponent_digits (negative : Bool) {ds : List Char} (hne : ds ≠ [])
    (hds : IsDigits ds) :
    readExponent ('e' :: (if negative then '-' else '+') :: ds) =
      some (Binary64.signed negative (readDigits ds)) := by
  have hempty : ds.isEmpty = false := List.isEmpty_eq_false_iff.mpr hne
  have hall : ds.all Char.isDigit = true := List.all_eq_true.mpr hds
  cases negative with
  | true =>
    change (if (true && !ds.isEmpty && ds.all Char.isDigit) = true then _ else _) = _
    rw [hempty, hall]
    rfl
  | false =>
    change (if (true && !ds.isEmpty && ds.all Char.isDigit) = true then _ else _) = _
    rw [hempty, hall]
    rfl

theorem signed_natAbs (n : Int) : Binary64.signed (n < 0) n.natAbs = n := by
  unfold Binary64.signed
  by_cases h : n < 0
  · rw [if_pos (decide_eq_true h)]
    omega
  · rw [if_neg (by simpa using h)]
    omega

theorem readExponent_written (exponent : Int) :
    readExponent ('e' :: (if exponent < 0 then '-' else '+') ::
      padZeros 2 (digitsOf exponent.natAbs)) = some exponent := by
  have hdigits : IsDigits (padZeros 2 (digitsOf exponent.natAbs)) :=
    (isDigits_replicate_zero _).append (isDigits_digitsOf _)
  have hne : padZeros 2 (digitsOf exponent.natAbs) ≠ [] :=
    List.append_ne_nil_of_right_ne_nil _ Nat.toDigits_ne_nil
  have hvalue : readDigits (padZeros 2 (digitsOf exponent.natAbs)) = exponent.natAbs := by
    rw [padZeros, readDigits_zeros_append, readDigits_digitsOf]
  have hread := readExponent_digits (decide (exponent < 0)) hne hdigits
  simpa only [hvalue, signed_natAbs, decide_eq_true_eq] using hread

/-! ## The text of a decimal -/

theorem digitsOf_eq_append_zeros (d : Decimal) :
    ∃ k, digitsOf d.coefficient = d.significantDigits ++ List.replicate k '0' := by
  refine ⟨((digitsOf d.coefficient).reverse.takeWhile (· == '0')).length, ?_⟩
  have hzeros : (digitsOf d.coefficient).reverse.takeWhile (· == '0') =
      List.replicate ((digitsOf d.coefficient).reverse.takeWhile (· == '0')).length '0' := by
    refine List.eq_replicate_iff.mpr ⟨rfl, fun c hc => ?_⟩
    exact eq_of_beq (List.all_eq_true.mp List.all_takeWhile c hc)
  have hsplit := congrArg List.reverse (List.takeWhile_append_dropWhile
    (p := (· == '0')) (l := (digitsOf d.coefficient).reverse))
  rw [List.reverse_append, List.reverse_reverse] at hsplit
  rw [significantDigits, ← List.reverse_replicate, ← hzeros, hsplit]

theorem isDigits_significantDigits (d : Decimal) : IsDigits d.significantDigits := by
  obtain ⟨k, hk⟩ := d.digitsOf_eq_append_zeros
  refine (isDigits_digitsOf d.coefficient).of_subset ?_
  rw [hk]
  exact List.subset_append_left _ _

theorem significantDigits_ne_nil {d : Decimal} (h : d.coefficient ≠ 0) :
    d.significantDigits ≠ [] := by
  obtain ⟨k, hk⟩ := d.digitsOf_eq_append_zeros
  intro hnil
  rw [hnil, List.nil_append] at hk
  have hvalue := readDigits_append_zeros [] k
  rw [List.nil_append, ← hk, readDigits_digitsOf] at hvalue
  exact h (hvalue.trans (Nat.zero_mul _))

/-- The number of a decimal, with its significant digits alone as the coefficient. -/
def reduced (d : Decimal) : Decimal :=
  ⟨d.negative, readDigits d.significantDigits, d.pointPlace - d.significantDigits.length⟩

theorem nearest_reduced (d : Decimal) : d.reduced.nearest = d.nearest := by
  obtain ⟨k, hk⟩ := d.digitsOf_eq_append_zeros
  have hcoefficient : d.coefficient = readDigits d.significantDigits * tenPow k := by
    rw [← readDigits_append_zeros, ← hk, readDigits_digitsOf]
  have hlength : (digitsOf d.coefficient).length = d.significantDigits.length + k := by
    rw [hk, List.length_append, List.length_replicate]
  have hexponent : d.pointPlace - d.significantDigits.length = d.exponent + k := by
    rw [pointPlace, hlength]
    omega
  rw [reduced, hexponent, ← nearest_mul_tenPow, ← hcoefficient]

/-- The text reads as a decimal with the nearest double of `d`. -/
def ReadsLike (cs : List Char) (d : Decimal) : Prop :=
  ∃ e, read? cs = some e ∧ e.nearest = d.nearest

-- It is enough that zeros at the end of the coefficient are made up for by the exponent.
theorem readsLike_of_reduced {cs : List Char} {d : Decimal} (k : Nat) {coefficient : Nat}
    {exponent : Int} (h : read? cs = some ⟨d.negative, coefficient, exponent⟩)
    (hcoefficient : coefficient = d.reduced.coefficient * tenPow k)
    (hexponent : exponent + k = d.reduced.exponent) : ReadsLike cs d := by
  refine ⟨_, h, ?_⟩
  rw [← d.nearest_reduced, hcoefficient, nearest_mul_tenPow, hexponent]
  rfl

theorem readsLike_positionalText (d : Decimal) (h : d.coefficient ≠ 0) :
    ReadsLike (minusSign d.negative ++ positionalText d.significantDigits d.pointPlace) d := by
  have hdigits := d.isDigits_significantDigits
  have hne := significantDigits_ne_nil h
  have hone : tenPow 0 = 1 := rfl
  unfold positionalText
  by_cases hpoint : d.pointPlace ≤ 0
  · -- The point stands before all significant digits.
    rw [if_pos hpoint]
    have hfraction := (isDigits_replicate_zero (-d.pointPlace).toNat).append hdigits
    have hzero : IsDigits ['0'] := isDigits_replicate_zero 1
    refine readsLike_of_reduced 0 (read?_point d.negative (List.cons_ne_nil _ _) hzero hfraction)
      ?_ ?_
    · rw [hone, Nat.mul_one, ← List.append_assoc]
      exact readDigits_zeros_append ((-d.pointPlace).toNat + 1) d.significantDigits
    · rw [List.length_append, List.length_replicate, reduced]
      dsimp only
      omega
  · rw [if_neg hpoint]
    by_cases hlength : d.significantDigits.length ≤ d.pointPlace.toNat
    · -- The point stands behind all significant digits.
      rw [if_pos hlength]
      let zeros := d.pointPlace.toNat - d.significantDigits.length
      have hwhole := hdigits.append (isDigits_replicate_zero zeros)
      have hzero : IsDigits ['0'] := isDigits_replicate_zero 1
      have hwholeNe : d.significantDigits ++ List.replicate zeros '0' ≠ [] :=
        List.append_ne_nil_of_left_ne_nil hne _
      refine readsLike_of_reduced (zeros + 1) (read?_point d.negative hwholeNe hwhole hzero) ?_ ?_
      · rw [List.append_assoc]
        change readDigits (_ ++ (List.replicate zeros '0' ++ List.replicate 1 '0')) = _
        rw [List.replicate_append_replicate, readDigits_append_zeros]
        rfl
      · change -((1 : Nat) : Int) + ((zeros + 1 : Nat) : Int) = d.reduced.exponent
        rw [reduced]
        dsimp only
        omega
    · -- The point stands among the significant digits.
      rw [if_neg hlength]
      have hwhole := hdigits.of_subset (List.take_subset d.pointPlace.toNat _)
      have hfraction := hdigits.of_subset (List.drop_subset d.pointPlace.toNat _)
      have hwholeNe : d.significantDigits.take d.pointPlace.toNat ≠ [] := by
        rw [Ne, List.take_eq_nil_iff, not_or]
        exact ⟨by omega, hne⟩
      refine readsLike_of_reduced 0 (read?_point d.negative hwholeNe hwhole hfraction) ?_ ?_
      · rw [List.take_append_drop, hone, Nat.mul_one]
        rfl
      · rw [List.length_drop, reduced]
        dsimp only
        omega

theorem readsLike_exponentText (d : Decimal) (h : d.coefficient ≠ 0) :
    ReadsLike (minusSign d.negative ++ exponentText d.significantDigits d.pointPlace) d := by
  have hdigits := d.isDigits_significantDigits
  obtain ⟨c, cs, hcons⟩ := List.exists_cons_of_ne_nil (significantDigits_ne_nil h)
  rw [hcons] at hdigits
  have hfirst : IsDigits [c] := hdigits.of_subset (by simp)
  have hrest : IsDigits cs := hdigits.of_subset (List.subset_cons_self c cs)
  have hexponent := readExponent_written (d.pointPlace - 1)
  let mark := 'e' :: (if d.pointPlace - 1 < 0 then '-' else '+') ::
    padZeros 2 (digitsOf (d.pointPlace - 1).natAbs)
  have hmark : StopsDigits mark := by rintro _ ⟨⟩; rfl
  have htext : exponentText d.significantDigits d.pointPlace =
      [c] ++ ((if cs = [] then [] else '.' :: cs) ++ mark) := by
    rw [hcons, exponentText]
    cases cs <;> simp [mark]
  have hread : read? (minusSign d.negative ++ exponentText d.significantDigits d.pointPlace) =
      some ⟨d.negative, readDigits ([c] ++ cs), d.pointPlace - 1 - cs.length⟩ := by
    rw [htext]
    by_cases hempty : cs = []
    · subst hempty
      exact read?_parts d.negative (List.cons_ne_nil c []) hfirst hmark rfl hexponent
    · rw [if_neg hempty]
      exact read?_parts d.negative (List.cons_ne_nil c []) hfirst (by rintro _ ⟨⟩; rfl)
        (splitFraction_point hrest hmark) hexponent
  have hone : tenPow 0 = 1 := rfl
  refine readsLike_of_reduced 0 hread ?_ ?_
  · rw [hone, Nat.mul_one, reduced, hcons]
    rfl
  · rw [reduced, hcons, List.length_cons]
    dsimp only
    omega

/-- The text of a decimal is read as the same number. -/
theorem exists_read?_text (d : Decimal) : ReadsLike d.text d := by
  unfold text
  by_cases hzero : d.coefficient = 0
  · rw [if_pos hzero]
    have hdigits : IsDigits ['0'] := isDigits_replicate_zero 1
    refine ⟨_, read?_point d.negative (List.cons_ne_nil _ _) hdigits hdigits, ?_⟩
    rw [nearest_eq_ofRatio, nearest_eq_ofRatio, ofRatio_of_coefficient_eq_zero hzero]
    exact ofRatio_of_coefficient_eq_zero rfl
  · rw [if_neg hzero]
    by_cases hpositional : isPositional d.pointPlace = true
    · rw [if_pos hpositional]
      exact d.readsLike_positionalText hzero
    · rw [if_neg hpositional]
      exact d.readsLike_exponentText hzero

theorem read?_integerText (n : Int) : read? (integerText n) = some ⟨n < 0, n.natAbs, 0⟩ := by
  have hdigits := isDigits_digitsOf n.natAbs
  have hne : digitsOf n.natAbs ≠ [] := Nat.toDigits_ne_nil
  have hend : StopsDigits [] := by rintro _ ⟨⟩
  have hread := read?_parts (decide (n < 0)) hne hdigits hend rfl rfl
  rwa [List.append_nil, readDigits_digitsOf] at hread

/-! ## The characters of a text -/

theorem isNumeric_minusSign (negative : Bool) : ∀ c ∈ minusSign negative, IsNumeric c := by
  cases negative with
  | false => exact List.forall_mem_nil _
  | true => exact List.forall_mem_singleton.mpr (by decide)

theorem isNumeric_positionalText {ds : List Char} (hds : IsDigits ds) (point : Int) :
    ∀ c ∈ positionalText ds point, IsNumeric c := by
  have hzeros (n : Nat) := (isDigits_replicate_zero n).isNumeric
  have hdot : IsNumeric '.' := by decide
  unfold positionalText
  split
  · rw [List.forall_mem_cons, List.forall_mem_cons, List.forall_mem_append]
    exact ⟨by decide, hdot, hzeros _, hds.isNumeric⟩
  · split
    · rw [List.forall_mem_append, List.forall_mem_append]
      refine ⟨⟨hds.isNumeric, hzeros _⟩, List.forall_mem_cons.mpr ⟨hdot, ?_⟩⟩
      exact List.forall_mem_singleton.mpr (by decide)
    · rw [List.forall_mem_append, List.forall_mem_cons]
      exact ⟨(hds.of_subset (List.take_subset _ _)).isNumeric, hdot,
        (hds.of_subset (List.drop_subset _ _)).isNumeric⟩

theorem isNumeric_exponentText {ds : List Char} (hds : IsDigits ds) (point : Int) :
    ∀ c ∈ exponentText ds point, IsNumeric c := by
  have hdigits : IsDigits (padZeros 2 (digitsOf (point - 1).natAbs)) :=
    (isDigits_replicate_zero _).append (isDigits_digitsOf _)
  unfold exponentText
  dsimp only
  rw [List.forall_mem_append, List.forall_mem_append, List.forall_mem_cons, List.forall_mem_cons]
  refine ⟨⟨(hds.of_subset (List.take_subset _ _)).isNumeric, ?_⟩, by decide, ?_, hdigits.isNumeric⟩
  · split
    · simp
    · rw [List.forall_mem_cons]
      exact ⟨by decide, (hds.of_subset (List.drop_subset _ _)).isNumeric⟩
  · split <;> decide

theorem isNumeric_zeroText : ∀ c ∈ ['0', '.', '0'], IsNumeric c := by
  rw [List.forall_mem_cons, List.forall_mem_cons, List.forall_mem_singleton]
  decide

theorem isNumeric_text (d : Decimal) : ∀ c ∈ d.text, IsNumeric c := by
  have hdigits := d.isDigits_significantDigits
  unfold text
  rw [List.forall_mem_append]
  refine ⟨isNumeric_minusSign _, ?_⟩
  split
  · exact isNumeric_zeroText
  · split
    · exact isNumeric_positionalText hdigits _
    · exact isNumeric_exponentText hdigits _

theorem isNumeric_integerText (n : Int) : ∀ c ∈ integerText n, IsNumeric c := by
  unfold integerText
  rw [List.forall_mem_append]
  exact ⟨isNumeric_minusSign _, (isDigits_digitsOf _).isNumeric⟩

end Decimal

/-! ## Measured sizes -/

-- The digits among the numeric characters are those of ASCII.
theorem exists_digitChar {c : Char} (h : c.isDigit = true) : ∃ n < 10, Nat.digitChar n = c := by
  have hrange : 48 ≤ c.toNat ∧ c.toNat ≤ 57 := by
    simpa [Char.isDigit, UInt32.le_iff_toNat_le] using h
  refine ⟨c.toNat - 48, by omega, Char.toNat_inj.mp ?_⟩
  rw [Nat.toNat_digitChar_of_lt_ten (by omega)]
  omega

-- What holds of the ten digits and of the four marks holds of every numeric character.
theorem IsNumeric.forall {P : Char → Prop} (hdigits : ∀ n < 10, P (Nat.digitChar n))
    (hmarks : P '.' ∧ P '+' ∧ P '-' ∧ P 'e') {c : Char} (h : IsNumeric c) : P c := by
  obtain ⟨hpoint, hplus, hminus, hexponent⟩ := hmarks
  rcases h with hdigit | hmark
  · obtain ⟨n, hn, rfl⟩ := exists_digitChar hdigit
    exact hdigits n hn
  · simp only [List.mem_cons, List.not_mem_nil, or_false] at hmark
    rcases hmark with rfl | rfl | rfl | rfl
    · exact hpoint
    · exact hplus
    · exact hminus
    · exact hexponent

theorem IsNumeric.not_isBlank {c : Char} (h : IsNumeric c) : Text.isBlank c = false :=
  h.forall (P := fun c => Text.isBlank c = false) (by decide) (by decide)

theorem IsNumeric.toAsciiDigit_eq {c : Char} (h : IsNumeric c) : Text.toAsciiDigit c = c :=
  h.forall (P := fun c => Text.toAsciiDigit c = c) (by decide) (by decide)

theorem IsNumeric.ne_underscore {c : Char} (h : IsNumeric c) : c ≠ '_' :=
  h.forall (P := fun c => c ≠ '_') (by decide) (by decide)

theorem Text.trim_eq_self {drop : Char → Bool} {cs : List Char} (h : ∀ c ∈ cs, drop c = false) :
    trim drop cs = cs := by
  have hkept {cs : List Char} (h : ∀ c ∈ cs, drop c = false) : cs.dropWhile drop = cs := by
    cases cs with
    | nil => rfl
    | cons c rest => rw [List.dropWhile_cons_of_neg (by simp [h c List.mem_cons_self])]
  rw [trim, hkept h, hkept fun c hc => h c (List.mem_reverse.mp hc), List.reverse_reverse]

theorem ungroup_cons_of_ne {c : Char} (h : c ≠ '_') (previous : Char) (cs : List Char) :
    ungroup previous (c :: cs) = (ungroup c cs).map (c :: ·) := by
  rw [ungroup]
  · rintro rfl
    exact absurd rfl h
  · rintro d ds rfl
    exact absurd rfl h

theorem ungroup_eq_self (previous : Char) {cs : List Char} (h : ∀ c ∈ cs, c ≠ '_') :
    ungroup previous cs = some cs := by
  induction cs generalizing previous with
  | nil => rfl
  | cons c rest ih =>
    rw [List.forall_mem_cons] at h
    rw [ungroup_cons_of_ne h.1, ih c h.2]
    rfl

namespace Measure

theorem decimal?_of_isNumeric {cs : List Char} (h : ∀ c ∈ cs, IsNumeric c) :
    decimal? cs = Decimal.read? cs := by
  have hascii : cs.map Text.toAsciiDigit = cs :=
    (List.map_congr_left fun c hc => (h c hc).toAsciiDigit_eq).trans (List.map_id' cs)
  unfold decimal?
  rw [Text.trim_eq_self fun c hc => (h c hc).not_isBlank, hascii,
    ungroup_eq_self ' ' fun c hc => (h c hc).ne_underscore]
  rfl

theorem ofText_of_read? {cs : List Char} (hcs : ∀ c ∈ cs, IsNumeric c) {d : Decimal}
    (h : Decimal.read? cs = some d) : ofText cs = usable d.nearest := by
  rw [ofText, decimal?_of_isNumeric hcs, h]

theorem ofText_text (negative : Bool) {mag : Nat} (fits : Representable mag) :
    ofText (Binary64.finite negative mag fits).text = .finite negative mag fits := by
  obtain ⟨d, hread, hnearest⟩ := (Binary64.shortest negative mag fits).exists_read?_text
  change ofText (Binary64.shortest negative mag fits).text = _
  rw [ofText_of_read? (Decimal.isNumeric_text _) hread, hnearest, Binary64.nearest_shortest]
  rfl

/-- A finite double is measured as itself. -/
theorem ofJson_real {x : Binary64} (h : x.isFinite = true) : ofJson (.real x) = x := by
  cases x with
  | finite negative mag fits =>
    have htext : (Json.real (.finite negative mag fits)).asText.toList =
        (Binary64.finite negative mag fits).text :=
      String.toList_ofList
    change ofText (Json.real (.finite negative mag fits)).asText.toList = _
    rw [htext, ofText_text]
  | _ => cases h

end Measure

end Fenestration
