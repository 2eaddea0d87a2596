import Fenestration.Proofs.Number.NearestDouble
import Fenestration.Proofs.Number.ReadBack
import Mathlib.Data.List.Forall2

/-!
# Numerals

The grammar of the texts that denote a size, with the number that each of them denotes, and the
proof that measuring reads this language.
-/

namespace Fenestration

/-! ## Digits of every script -/

namespace Text

theorem digitValue?_lt_ten {c : Char} {d : Nat} (h : digitValue? c = some d) : d < 10 := by
  obtain ⟨start, hfind, rfl⟩ := Option.map_eq_some_iff.mp h
  have hrange := List.find?_some hfind
  rw [Bool.and_eq_true, decide_eq_true_eq, decide_eq_true_eq] at hrange
  omega

theorem toAsciiDigit_of_some {c : Char} {d : Nat} (h : digitValue? c = some d) :
    toAsciiDigit c = d.digitChar := by
  rw [toAsciiDigit, h]

theorem toAsciiDigit_of_none {c : Char} (h : digitValue? c = none) : toAsciiDigit c = c := by
  rw [toAsciiDigit, h]

theorem isSome_digitValue?_of_isDigit {c : Char} (h : c.isDigit = true) :
    (digitValue? c).isSome = true := by
  have hrange : 48 ≤ c.toNat ∧ c.toNat ≤ 57 := by
    simpa [Char.isDigit, UInt32.le_iff_toNat_le] using h
  have hzeros : zeros = 0x30 :: zeros.tail := rfl
  rw [digitValue?, hzeros, List.find?_cons_of_pos]
  · rfl
  · rw [Bool.and_eq_true, decide_eq_true_eq, decide_eq_true_eq]
    omega

theorem isDigit_toAsciiDigit (c : Char) : (toAsciiDigit c).isDigit = (digitValue? c).isSome := by
  cases hvalue : digitValue? c with
  | some d =>
    rw [toAsciiDigit_of_some hvalue, Nat.isDigit_digitChar,
      decide_eq_true (digitValue?_lt_ten hvalue)]
    rfl
  | none =>
    rw [toAsciiDigit_of_none hvalue, ← hvalue, Bool.eq_iff_iff]
    refine ⟨isSome_digitValue?_of_isDigit, fun h => ?_⟩
    rw [hvalue] at h
    cases h

theorem ne_of_digitValue? {c mark : Char} (hmark : digitValue? mark = none)
    (h : (digitValue? c).isSome = true) : c ≠ mark := by
  rintro rfl
  rw [hmark] at h
  cases h

-- A character that is no digit of any script stands for itself alone.
theorem toAsciiDigit_eq_iff {c mark : Char} (hmark : digitValue? mark = none) :
    toAsciiDigit c = mark ↔ c = mark := by
  constructor
  · intro h
    cases hvalue : digitValue? c with
    | some d =>
      have hdigit : mark.isDigit = true := by
        rw [← h, isDigit_toAsciiDigit, hvalue]
        rfl
      exact absurd rfl (ne_of_digitValue? hmark (isSome_digitValue?_of_isDigit hdigit))
    | none => rwa [toAsciiDigit_of_none hvalue] at h
  · rintro rfl
    exact toAsciiDigit_of_none hmark

end Text

/-! ## The grammar -/

namespace Numeral

/-- The characters are digits of some script; `ds` are their values. -/
def Spells (cs : List Char) (ds : List Nat) : Prop :=
  List.Forall₂ (fun c d => Text.digitValue? c = some d) cs ds

/-- The number that digits stand for, the first one counting most. -/
def number (ds : List Nat) : Nat :=
  ds.foldl (fun n d => 10 * n + d) 0

inductive Sign : List Char → Bool → Prop
  | absent : Sign [] false
  | plus : Sign ['+'] false
  | minus : Sign ['-'] true

/-- A point with the digits behind it, or neither. -/
inductive Fraction : List Char → List Nat → Prop
  | absent : Fraction [] []
  | point {cs : List Char} {ds : List Nat} : Spells cs ds → Fraction ('.' :: cs) ds

/-- A mark, a sign and at least one digit, or nothing, which stands for zero. -/
inductive Exponent : List Char → Int → Prop
  | absent : Exponent [] 0
  | marked {mark : Char} {sign cs : List Char} {negative : Bool} {ds : List Nat} :
      mark ∈ ['e', 'E'] → Sign sign negative → Spells cs ds → ds ≠ [] →
        Exponent (mark :: (sign ++ cs)) (Binary64.signed negative (number ds))

/-- A sign, digits, a fraction and an exponent, with at least one digit on either side of the point,
denote a signed number. -/
inductive Denotes : List Char → Bool → Rat → Prop
  | parts {sign whole fraction exponent : List Char} {negative : Bool} {ws fs : List Nat}
      {e : Int} :
      Sign sign negative → Spells whole ws → Fraction fraction fs → Exponent exponent e →
        (ws ≠ [] ∨ fs ≠ []) →
        Denotes (sign ++ (whole ++ (fraction ++ exponent))) negative
          ((number ws + number fs / 10 ^ fs.length) * 10 ^ e)

/-- Neighbours in a text: next to an underscore there is a digit. -/
def MayAdjoin (a b : Char) : Prop :=
  (a = '_' → (Text.digitValue? b).isSome = true) ∧ (b = '_' → (Text.digitValue? a).isSome = true)

instance : DecidableRel MayAdjoin :=
  fun _ _ => inferInstanceAs (Decidable (_ ∧ _))

/-- Every underscore stands between two digits. -/
def IsGrouped (cs : List Char) : Prop :=
  List.IsChain MayAdjoin (' ' :: (cs ++ [' ']))

instance : DecidablePred IsGrouped :=
  fun cs => inferInstanceAs (Decidable (List.IsChain MayAdjoin (' ' :: (cs ++ [' ']))))

end Numeral

/-- A text is a numeral that denotes a signed number. -/
structure IsNumeral (cs : List Char) (negative : Bool) (size : Rat) : Prop where
  grouped : Numeral.IsGrouped cs
  denotes : Numeral.Denotes (cs.filter (· ≠ '_')) negative size

/-! ## Parts that are read -/

namespace Numeral

open Decimal (StopsDigits readDigits splitSign splitFraction readExponent)

-- The text as it is read: every digit of every script stands for the ASCII digit of its value.
def ascii (cs : List Char) : List Char :=
  cs.map Text.toAsciiDigit

theorem ascii_append (as bs : List Char) : ascii (as ++ bs) = ascii as ++ ascii bs :=
  List.map_append

theorem Spells.isDigits {cs : List Char} {ds : List Nat} (h : Spells cs ds) :
    IsDigits (ascii cs) := by
  induction h with
  | nil => exact List.forall_mem_nil _
  | @cons c _ _ _ hc _ ih =>
    have hdigit := Text.isDigit_toAsciiDigit c
    rw [hc] at hdigit
    exact List.forall_mem_cons.mpr ⟨hdigit, ih⟩

theorem Spells.readDigits_eq {cs : List Char} {ds : List Nat} (h : Spells cs ds) :
    readDigits (ascii cs) = number ds := by
  have hfold (n : Nat) : Nat.ofDigitChars 10 (ascii cs) n = ds.foldl (fun n d => 10 * n + d) n := by
    induction h generalizing n with
    | nil => rfl
    | @cons c d cs ds hc _ ih =>
      change Nat.ofDigitChars 10 (Text.toAsciiDigit c :: ascii cs) n = _
      rw [Text.toAsciiDigit_of_some hc,
        Nat.ofDigitChars_cons_digitChar_of_lt_ten (Text.digitValue?_lt_ten hc), ih]
      rfl
  exact hfold 0

theorem exists_spells {cs : List Char} (h : IsDigits (ascii cs)) : ∃ ds, Spells cs ds := by
  induction cs with
  | nil => exact ⟨[], .nil⟩
  | cons c rest ih =>
    obtain ⟨hc, hrest⟩ := List.forall_mem_cons.mp h
    rw [Text.isDigit_toAsciiDigit] at hc
    obtain ⟨d, hd⟩ := Option.isSome_iff_exists.mp hc
    obtain ⟨ds, hds⟩ := ih hrest
    exact ⟨d :: ds, .cons hd hds⟩

theorem Spells.ne_nil_iff {cs : List Char} {ds : List Nat} (h : Spells cs ds) :
    cs ≠ [] ↔ ds ≠ [] := by
  rw [Ne, Ne, ← List.length_eq_zero_iff, ← List.length_eq_zero_iff, List.Forall₂.length_eq h]

-- No digit comes first, however digits are written.
theorem stopsDigits_ascii_cons {c : Char} (h : Text.digitValue? c = none) (cs : List Char) :
    StopsDigits (ascii (c :: cs)) := by
  rintro _ ⟨⟩
  rw [Text.isDigit_toAsciiDigit, h]
  rfl

/-! ### Signs -/

/-- No sign comes first. -/
def StopsSign (cs : List Char) : Prop :=
  ∀ c ∈ cs.head?, c ≠ '-' ∧ c ≠ '+'

theorem ascii_mark {mark : Char} (h : Text.digitValue? mark = none) (cs : List Char) :
    ascii (mark :: cs) = mark :: ascii cs := by
  rw [ascii, List.map_cons, Text.toAsciiDigit_of_none h]
  rfl

theorem splitSign_ascii {cs : List Char} (h : StopsSign cs) :
    splitSign (ascii cs) = (false, ascii cs) := by
  cases cs with
  | nil => rfl
  | cons c rest =>
    obtain ⟨hminus, hplus⟩ := h c rfl
    have hnotMinus : Text.toAsciiDigit c ≠ '-' :=
      mt (Text.toAsciiDigit_eq_iff (by decide)).mp hminus
    have hnotPlus : Text.toAsciiDigit c ≠ '+' :=
      mt (Text.toAsciiDigit_eq_iff (by decide)).mp hplus
    change splitSign (Text.toAsciiDigit c :: ascii rest) = _
    unfold splitSign
    split
    · rename_i heq
      exact absurd (List.cons.inj heq).1 hnotMinus
    · rename_i heq
      exact absurd (List.cons.inj heq).1 hnotPlus
    · rfl

theorem Sign.splitSign_eq {sign body : List Char} {negative : Bool} (h : Sign sign negative)
    (hbody : StopsSign body) : splitSign (ascii (sign ++ body)) = (negative, ascii body) := by
  cases h with
  | absent => exact splitSign_ascii hbody
  | plus => exact congrArg splitSign (ascii_mark (by decide) body)
  | minus => exact congrArg splitSign (ascii_mark (by decide) body)

theorem exists_sign (cs : List Char) :
    ∃ sign body negative, cs = sign ++ body ∧ Sign sign negative ∧
      splitSign (ascii cs) = (negative, ascii body) := by
  by_cases hstop : StopsSign cs
  · exact ⟨[], cs, false, rfl, .absent, splitSign_ascii hstop⟩
  · cases cs with
    | nil => exact absurd (fun _ h => by cases h) hstop
    | cons c rest =>
      by_cases hminus : c = '-'
      · subst hminus
        exact ⟨['-'], rest, true, rfl, .minus, congrArg splitSign (ascii_mark (by decide) rest)⟩
      · by_cases hplus : c = '+'
        · subst hplus
          exact ⟨['+'], rest, false, rfl, .plus, congrArg splitSign (ascii_mark (by decide) rest)⟩
        · refine absurd ?_ hstop
          rintro _ ⟨⟩
          exact ⟨hminus, hplus⟩

/-! ### Digits and fractions -/

-- Digits come first, and what follows them does not start with one.
theorem exists_digits (cs : List Char) :
    ∃ digits rest ds, cs = digits ++ rest ∧ Spells digits ds ∧ StopsDigits (ascii rest) ∧
      (ascii cs).takeWhile Char.isDigit = ascii digits ∧
      (ascii cs).dropWhile Char.isDigit = ascii rest := by
  let isDigit (c : Char) : Bool := (Text.toAsciiDigit c).isDigit
  have htake : (ascii cs).takeWhile Char.isDigit = ascii (cs.takeWhile isDigit) :=
    List.takeWhile_map
  have hdrop : (ascii cs).dropWhile Char.isDigit = ascii (cs.dropWhile isDigit) :=
    List.dropWhile_map
  have hdigits : IsDigits (ascii (cs.takeWhile isDigit)) := by
    rw [← htake]
    intro c hc
    exact List.all_eq_true.mp List.all_takeWhile c hc
  obtain ⟨ds, hds⟩ := exists_spells hdigits
  refine ⟨cs.takeWhile isDigit, cs.dropWhile isDigit, ds,
    List.takeWhile_append_dropWhile.symm, hds, ?_, htake, hdrop⟩
  rw [← hdrop]
  intro c hc
  have hnot := List.head?_dropWhile_not Char.isDigit (ascii cs)
  rw [hc] at hnot
  simpa using hnot

theorem splitFraction_ascii {cs : List Char} (h : ∀ c ∈ cs.head?, c ≠ '.') :
    splitFraction (ascii cs) = ([], ascii cs) := by
  cases cs with
  | nil => rfl
  | cons c rest =>
    have hpoint : Text.toAsciiDigit c ≠ '.' :=
      mt (Text.toAsciiDigit_eq_iff (by decide)).mp (h c rfl)
    change splitFraction (Text.toAsciiDigit c :: ascii rest) = _
    unfold splitFraction
    split
    · rename_i heq
      exact absurd (List.cons.inj heq).1 hpoint
    · rfl

theorem Fraction.splitFraction_eq {fraction rest : List Char} {fs : List Nat}
    (h : Fraction fraction fs) (hdigits : StopsDigits (ascii rest))
    (hpoint : ∀ c ∈ rest.head?, c ≠ '.') :
    ∃ digits, Spells digits fs ∧
      splitFraction (ascii (fraction ++ rest)) = (ascii digits, ascii rest) := by
  cases h with
  | absent => exact ⟨[], .nil, splitFraction_ascii hpoint⟩
  | @point digits _ hspells =>
    refine ⟨digits, hspells, ?_⟩
    rw [List.cons_append, ascii_mark (by decide), ascii_append]
    exact Decimal.splitFraction_point hspells.isDigits hdigits

theorem exists_fraction (cs : List Char) :
    ∃ fraction digits rest fs, cs = fraction ++ rest ∧ Fraction fraction fs ∧ Spells digits fs ∧
      splitFraction (ascii cs) = (ascii digits, ascii rest) := by
  by_cases hpoint : ∀ c ∈ cs.head?, c ≠ '.'
  · exact ⟨[], [], cs, [], rfl, .absent, .nil, splitFraction_ascii hpoint⟩
  · cases cs with
    | nil => exact absurd (fun _ h => by cases h) hpoint
    | cons c after =>
      have hc : c = '.' := by
        by_contra hne
        refine hpoint ?_
        rintro _ ⟨⟩
        exact hne
      subst hc
      obtain ⟨digits, rest, fs, rfl, hspells, -, htake, hdrop⟩ := exists_digits after
      refine ⟨'.' :: digits, digits, rest, fs, rfl, .point hspells, hspells, ?_⟩
      rw [ascii_mark (by decide), splitFraction, htake, hdrop]

/-! ### Exponents -/

theorem Spells.stopsSign {cs : List Char} {ds : List Nat} (h : Spells cs ds) : StopsSign cs := by
  cases h with
  | nil => exact fun _ h => by cases h
  | cons hc _ =>
    rintro _ ⟨⟩
    have hdigit := Option.isSome_of_eq_some hc
    exact ⟨Text.ne_of_digitValue? (by decide) hdigit, Text.ne_of_digitValue? (by decide) hdigit⟩

theorem Exponent.readExponent_eq {cs : List Char} {e : Int} (h : Exponent cs e) :
    readExponent (ascii cs) = some e := by
  cases h with
  | absent => rfl
  | @marked mark sign digits negative ds hmark hsign hspells hne =>
    have hvalue : Text.digitValue? mark = none := by
      rcases List.mem_pair.mp hmark with rfl | rfl <;> decide
    have hmarks : (mark == 'e' || mark == 'E') = true := by
      rcases List.mem_pair.mp hmark with rfl | rfl <;> decide
    have hempty : (ascii digits).isEmpty = false := by
      rw [List.isEmpty_eq_false_iff, ascii, Ne, List.map_eq_nil_iff]
      exact hspells.ne_nil_iff.mpr hne
    have hall : (ascii digits).all Char.isDigit = true := List.all_eq_true.mpr hspells.isDigits
    rw [ascii_mark hvalue, readExponent, hsign.splitSign_eq hspells.stopsSign]
    dsimp only
    rw [hmarks, hempty, hall, hspells.readDigits_eq]
    rfl

theorem exponent_of_readExponent {cs : List Char} {e : Int}
    (h : readExponent (ascii cs) = some e) : Exponent cs e := by
  cases cs with
  | nil =>
    cases h
    exact .absent
  | cons mark after =>
    obtain ⟨sign, digits, negative, rfl, hsign, hsplit⟩ := exists_sign after
    change readExponent (Text.toAsciiDigit mark :: ascii (sign ++ digits)) = some e at h
    rw [readExponent, hsplit] at h
    dsimp only at h
    split at h
    · rename_i hcond
      simp only [Bool.and_eq_true, Bool.or_eq_true, beq_iff_eq, Bool.not_eq_true',
        List.isEmpty_eq_false_iff, List.all_eq_true] at hcond
      obtain ⟨⟨hmark, hne⟩, hall⟩ := hcond
      rw [Text.toAsciiDigit_eq_iff (by decide), Text.toAsciiDigit_eq_iff (by decide)] at hmark
      obtain ⟨ds, hspells⟩ := exists_spells hall
      have hdigits : digits ≠ [] := by
        rintro rfl
        exact hne rfl
      cases h
      rw [hspells.readDigits_eq]
      exact .marked (List.mem_pair.mpr hmark) hsign hspells (hspells.ne_nil_iff.mp hdigits)
    · cases h

/-! ## What is read -/

-- The head of an exponent ends digits and is no point.
theorem Exponent.stops {cs : List Char} {e : Int} (h : Exponent cs e) :
    StopsDigits (ascii cs) ∧ ∀ c ∈ cs.head?, c ≠ '.' := by
  cases h with
  | absent => exact ⟨fun _ h => (by cases h), fun _ h => by cases h⟩
  | @marked mark _ _ _ _ hmark _ _ _ =>
    have hvalue : Text.digitValue? mark = none := by
      rcases List.mem_pair.mp hmark with rfl | rfl <;> decide
    refine ⟨stopsDigits_ascii_cons hvalue _, ?_⟩
    rintro _ ⟨⟩
    rcases List.mem_pair.mp hmark with rfl | rfl <;> decide

theorem Fraction.stopsDigits {fraction rest : List Char} {fs : List Nat}
    (h : Fraction fraction fs) (hrest : StopsDigits (ascii rest)) :
    StopsDigits (ascii (fraction ++ rest)) := by
  cases h with
  | absent => exact hrest
  | point _ => exact stopsDigits_ascii_cons (by decide) _

-- With a digit on either side of the point, no sign comes first.
theorem stopsSign_parts {whole fraction rest : List Char} {ws fs : List Nat}
    (hwhole : Spells whole ws) (hfraction : Fraction fraction fs) (hne : ws ≠ [] ∨ fs ≠ []) :
    StopsSign (whole ++ (fraction ++ rest)) := by
  cases hwhole with
  | nil =>
    cases hfraction with
    | absent => exact absurd hne (by simp)
    | point _ =>
      rintro _ ⟨⟩
      decide
  | @cons c _ cs _ hc hcs =>
    have hstop := Spells.stopsSign (.cons hc hcs)
    rintro _ ⟨⟩
    exact hstop c rfl

-- The whole digits and those behind the point, taken together, count units of the last place.
theorem size_parts (negative : Bool) {whole digits : List Char} {ws fs : List Nat}
    (hwhole : Spells whole ws) (hdigits : Spells digits fs) (e : Int) :
    (⟨negative, readDigits (ascii whole ++ ascii digits), e - (ascii digits).length⟩ :
        Decimal).size = (number ws + number fs / 10 ^ fs.length) * 10 ^ e := by
  have hlength : (ascii digits).length = fs.length := by
    rw [ascii, List.length_map]
    exact List.Forall₂.length_eq hdigits
  have hpower : ((tenPow fs.length : Nat) : Rat) = 10 ^ fs.length := Nat.cast_pow 10 fs.length
  have hne : (10 : Rat) ^ fs.length ≠ 0 := pow_ne_zero _ (by decide)
  rw [Decimal.readDigits_append, hwhole.readDigits_eq, hdigits.readDigits_eq, hlength,
    Decimal.size, zpow_sub₀ (by decide), zpow_natCast, Nat.cast_add, Nat.cast_mul, hpower,
    mul_div_assoc', ← div_mul_eq_mul_div, add_div, mul_div_cancel_right₀ _ hne]

theorem exists_read?_of_denotes {cs : List Char} {negative : Bool} {size : Rat}
    (h : Denotes cs negative size) :
    ∃ d, Decimal.read? (ascii cs) = some d ∧ d.negative = negative ∧ d.size = size := by
  cases h with
  | @parts sign whole fraction exponent _ ws fs e hsign hwhole hfraction hexponent hne =>
    obtain ⟨hstop, hpoint⟩ := hexponent.stops
    obtain ⟨digits, hdigits, hsplit⟩ := hfraction.splitFraction_eq hstop hpoint
    have hstart : StopsSign (whole ++ (fraction ++ exponent)) :=
      stopsSign_parts hwhole hfraction hne
    have hsplitSign := hsign.splitSign_eq hstart
    rw [ascii_append whole] at hsplitSign
    have hdigitsNe : ascii whole ≠ [] ∨ ascii digits ≠ [] := by
      rw [ascii, ascii, Ne, List.map_eq_nil_iff, Ne, List.map_eq_nil_iff]
      exact hne.imp hwhole.ne_nil_iff.mpr hdigits.ne_nil_iff.mpr
    have hread := Decimal.read?_of_splitSign hsplitSign hwhole.isDigits
      (hfraction.stopsDigits hstop) hsplit hdigitsNe hexponent.readExponent_eq
    exact ⟨_, hread, rfl, size_parts negative hwhole hdigits e⟩

theorem denotes_of_read? {cs : List Char} {d : Decimal} (h : Decimal.read? (ascii cs) = some d) :
    Denotes cs d.negative d.size := by
  obtain ⟨sign, body, negative, rfl, hsign, hsplitSign⟩ := exists_sign cs
  obtain ⟨whole, tail, ws, rfl, hwhole, -, htake, hdrop⟩ := exists_digits body
  obtain ⟨fraction, digits, rest, fs, rfl, hfraction, hdigits, hsplit⟩ := exists_fraction tail
  rw [Decimal.read?, hsplitSign] at h
  dsimp only at h
  rw [htake, hdrop, hsplit] at h
  dsimp only at h
  split at h
  · cases h
  · rename_i hempty
    obtain ⟨e, hexponent, rfl⟩ := Option.map_eq_some_iff.mp h
    have hne : ws ≠ [] ∨ fs ≠ [] := by
      rw [Bool.and_eq_true, List.isEmpty_iff, List.isEmpty_iff, not_and_or, ascii, ascii,
        List.map_eq_nil_iff, List.map_eq_nil_iff] at hempty
      exact hempty.imp hwhole.ne_nil_iff.mp hdigits.ne_nil_iff.mp
    rw [size_parts negative hwhole hdigits e]
    exact .parts hsign hwhole hfraction (exponent_of_readExponent hexponent) hne

/-! ### Underscores -/

theorem mayAdjoin_of_ne {a b : Char} (ha : a ≠ '_') (hb : b ≠ '_') : MayAdjoin a b :=
  ⟨fun h => absurd h ha, fun h => absurd h hb⟩

theorem not_mayAdjoin_blank : ¬ MayAdjoin '_' ' ' := by
  decide

-- On both sides of an underscore there is a digit.
theorem mayAdjoin_underscore_iff {p c : Char} :
    MayAdjoin p '_' ∧ MayAdjoin '_' c ↔
      ((Text.digitValue? p).isSome && (Text.digitValue? c).isSome) = true := by
  rw [Bool.and_eq_true]
  constructor
  · rintro ⟨hp, hc⟩
    exact ⟨hp.2 rfl, hc.1 rfl⟩
  · rintro ⟨hp, hc⟩
    have hpNe : p ≠ '_' := Text.ne_of_digitValue? (by decide) hp
    have hcNe : c ≠ '_' := Text.ne_of_digitValue? (by decide) hc
    exact ⟨⟨fun h => absurd h hpNe, fun _ => hp⟩, ⟨fun _ => hc, fun h => absurd h hcNe⟩⟩

theorem isChain_underscore_iff {p c : Char} {cs : List Char} :
    List.IsChain MayAdjoin (p :: '_' :: c :: cs) ↔
      ((Text.digitValue? p).isSome && (Text.digitValue? c).isSome) = true ∧
        List.IsChain MayAdjoin (p :: c :: cs) := by
  rw [List.isChain_cons_cons, List.isChain_cons_cons, ← and_assoc, mayAdjoin_underscore_iff,
    List.isChain_cons_cons]
  refine and_congr_right fun hdigits => ?_
  obtain ⟨hp, hc⟩ := Bool.and_eq_true_iff.mp hdigits
  have hadjoin : MayAdjoin p c :=
    mayAdjoin_of_ne (Text.ne_of_digitValue? (by decide) hp) (Text.ne_of_digitValue? (by decide) hc)
  exact (and_iff_right hadjoin).symm

theorem filter_cons_of_ne {c : Char} (h : c ≠ '_') (cs : List Char) :
    (c :: cs).filter (· ≠ '_') = c :: cs.filter (· ≠ '_') :=
  List.filter_cons_of_pos (decide_eq_true h)

theorem ungroup_ascii_cons {c : Char} (h : c ≠ '_') (p : Char) (cs : List Char) :
    ungroup (Text.toAsciiDigit p) (ascii (c :: cs)) =
      (ungroup (Text.toAsciiDigit c) (ascii cs)).map (Text.toAsciiDigit c :: ·) :=
  ungroup_cons_of_ne (mt (Text.toAsciiDigit_eq_iff (by decide)).mp h) _ _

-- Between two digits an underscore makes no difference.
theorem ungroup_ascii_underscore (p c : Char) (cs : List Char) :
    ungroup (Text.toAsciiDigit p) (ascii ('_' :: c :: cs)) =
      if (Text.digitValue? p).isSome && (Text.digitValue? c).isSome then
        ungroup (Text.toAsciiDigit p) (ascii (c :: cs))
      else none := by
  rw [ascii_mark (by decide), ← Text.isDigit_toAsciiDigit, ← Text.isDigit_toAsciiDigit]
  change (if _ then _ else none) = _
  by_cases hdigits : ((Text.toAsciiDigit p).isDigit && (Text.toAsciiDigit c).isDigit) = true
  · have hc := (Bool.and_eq_true_iff.mp hdigits).2
    rw [Text.isDigit_toAsciiDigit] at hc
    rw [if_pos hdigits, if_pos hdigits,
      ungroup_ascii_cons (Text.ne_of_digitValue? (by decide) hc)]
    rfl
  · rw [if_neg hdigits, if_neg hdigits]

/-- Underscores can be taken out where each of them stands between two digits. -/
theorem ungroup_eq_some_iff {p : Char} (hp : p ≠ '_') {cs ds : List Char} :
    ungroup (Text.toAsciiDigit p) (ascii cs) = some ds ↔
      List.IsChain MayAdjoin (p :: (cs ++ [' '])) ∧ ascii (cs.filter (· ≠ '_')) = ds := by
  induction cs generalizing p ds with
  | nil =>
    have hend : List.IsChain MayAdjoin [p, ' '] :=
      .cons_cons (mayAdjoin_of_ne hp (by decide)) (.singleton ' ')
    change some [] = some ds ↔ List.IsChain MayAdjoin [p, ' '] ∧ [] = ds
    rw [Option.some.injEq, and_iff_right hend]
  | cons c rest ih =>
    by_cases hc : c = '_'
    · subst hc
      rw [List.filter_cons_of_neg (by simp)]
      cases rest with
      | nil =>
        change none = some ds ↔ List.IsChain MayAdjoin [p, '_', ' '] ∧ _
        rw [List.isChain_cons_cons, List.isChain_cons_cons]
        constructor
        · rintro ⟨⟩
        · rintro ⟨⟨-, hblank, -⟩, -⟩
          exact absurd hblank not_mayAdjoin_blank
      | cons c after =>
        rw [ungroup_ascii_underscore, List.cons_append, List.cons_append, isChain_underscore_iff]
        by_cases hdigits : ((Text.digitValue? p).isSome && (Text.digitValue? c).isSome) = true
        · rw [if_pos hdigits, and_iff_right hdigits]
          exact ih hp
        · rw [if_neg hdigits]
          constructor
          · rintro ⟨⟩
          · rintro ⟨⟨hboth, -⟩, -⟩
            exact absurd hboth hdigits
    · rw [ungroup_ascii_cons hc, filter_cons_of_ne hc, List.cons_append, List.isChain_cons_cons,
        and_iff_right (mayAdjoin_of_ne hp hc), Option.map_eq_some_iff]
      constructor
      · rintro ⟨es, hes, rfl⟩
        obtain ⟨hchain, rfl⟩ := (ih hc).mp hes
        exact ⟨hchain, rfl⟩
      · rintro ⟨hchain, rfl⟩
        exact ⟨_, (ih hc).mpr ⟨hchain, rfl⟩, rfl⟩

end Numeral

end Fenestration
