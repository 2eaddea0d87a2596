import Fenestration.Proofs.Number.Numerals
import Mathlib.Tactic.NormNum

/-!
# What a text is measured as

A text is measured as the number that it denotes as a numeral, blanks at its ends aside, or as
nothing.  Main statement: `sizes_are_read_exactly`.
-/

namespace Fenestration

namespace Numeral

/-! ## Texts that are no numerals -/

theorem Spells.exists_digit {cs : List Char} {ds : List Nat} (h : Spells cs ds) (hne : ds ≠ []) :
    ∃ c ∈ cs, (Text.digitValue? c).isSome = true := by
  cases h with
  | nil => exact absurd rfl hne
  | @cons c _ cs _ hc _ => exact ⟨c, List.mem_cons_self, Option.isSome_of_eq_some hc⟩

theorem Denotes.exists_digit {cs : List Char} {negative : Bool} {size : Rat}
    (h : Denotes cs negative size) : ∃ c ∈ cs, (Text.digitValue? c).isSome = true := by
  cases h with
  | @parts sign whole fraction exponent _ ws fs _ _ hwhole hfraction _ hne =>
    rcases hne with hws | hfs
    · obtain ⟨c, hc, hdigit⟩ := hwhole.exists_digit hws
      exact ⟨c, List.mem_append_right _ (List.mem_append_left _ hc), hdigit⟩
    · cases hfraction with
      | absent => exact absurd rfl hfs
      | point hspells =>
        obtain ⟨c, hc, hdigit⟩ := hspells.exists_digit hfs
        have hmem : c ∈ '.' :: _ ++ exponent := List.mem_append_left _ (List.mem_cons_of_mem _ hc)
        exact ⟨c, List.mem_append_right _ (List.mem_append_right _ hmem), hdigit⟩

/-- What the numbers are called that are not finite. -/
def specialNames : List (List Char) :=
  ["inf".toList, "infinity".toList, "nan".toList]

/-- Such a name in any letter case, with or without a sign. -/
inductive IsSpecial : List Char → Prop
  | signed {sign name : List Char} {negative : Bool} :
      Sign sign negative → name.map Char.toLower ∈ specialNames → IsSpecial (sign ++ name)

theorem Sign.no_digit {sign : List Char} {negative : Bool} (h : Sign sign negative) :
    ∀ c ∈ sign, Text.digitValue? c = none := by
  cases h with
  | absent => exact List.forall_mem_nil _
  | plus => exact List.forall_mem_singleton.mpr (by decide)
  | minus => exact List.forall_mem_singleton.mpr (by decide)

-- Capital letters are no digits.
theorem digitValue?_toLower {c : Char} (h : Text.digitValue? c.toLower = none) :
    Text.digitValue? c = none := by
  unfold Char.toLower at h
  split at h
  · rename_i hcapital
    have hzeros : ∀ start ∈ Text.zeros, start = 0x30 ∨ 0x660 ≤ start := by decide
    have hrange : 65 ≤ c.toNat ∧ c.toNat ≤ 90 := by
      simpa [UInt32.le_iff_toNat_le] using hcapital
    rw [Text.digitValue?, Option.map_eq_none_iff, List.find?_eq_none]
    intro start hstart hdigit
    rw [Bool.and_eq_true, decide_eq_true_eq, decide_eq_true_eq] at hdigit
    have hzero := hzeros start hstart
    omega
  · exact h

theorem IsSpecial.no_digit {cs : List Char} (h : IsSpecial cs) :
    ∀ c ∈ cs, Text.digitValue? c = none := by
  cases h with
  | @signed sign name _ hsign hname =>
    rw [List.forall_mem_append]
    refine ⟨hsign.no_digit, fun c hc => digitValue?_toLower ?_⟩
    have hletters : (specialNames.all fun name => name.all fun c =>
        (Text.digitValue? c).isNone) = true := by decide
    have hletter := List.all_eq_true.mp (List.all_eq_true.mp hletters _ hname) _
      (List.mem_map_of_mem hc)
    exact Option.isNone_iff_eq_none.mp hletter

end Numeral

theorem IsNumeral.exists_digit {cs : List Char} {negative : Bool} {size : Rat}
    (h : IsNumeral cs negative size) : ∃ c ∈ cs, (Text.digitValue? c).isSome = true := by
  obtain ⟨c, hc, hdigit⟩ := h.denotes.exists_digit
  exact ⟨c, List.mem_of_mem_filter hc, hdigit⟩

namespace Measure

/-! ## Reading -/

theorem exists_decimal?_of_isNumeral {cs : List Char} {negative : Bool} {size : Rat}
    (h : IsNumeral (Text.trim Text.isBlank cs) negative size) :
    ∃ d, decimal? cs = some d ∧ d.negative = negative ∧ d.size = size := by
  have hungroup := (Numeral.ungroup_eq_some_iff (show ' ' ≠ '_' by decide)).mpr ⟨h.grouped, rfl⟩
  obtain ⟨d, hread, hsize⟩ := Numeral.exists_read?_of_denotes h.denotes
  refine ⟨d, ?_, hsize⟩
  change (ungroup (Text.toAsciiDigit ' ') (Numeral.ascii _)).bind Decimal.read? = some d
  rw [hungroup]
  exact hread

theorem isNumeral_of_decimal? {cs : List Char} {d : Decimal} (h : decimal? cs = some d) :
    IsNumeral (Text.trim Text.isBlank cs) d.negative d.size := by
  obtain ⟨ds, hungroup, hread⟩ := Option.bind_eq_some_iff.mp h
  obtain ⟨hgrouped, rfl⟩ := (Numeral.ungroup_eq_some_iff (show ' ' ≠ '_' by decide)).mp hungroup
  exact ⟨hgrouped, Numeral.denotes_of_read? hread⟩

/-- What a signed number is measured as: the double nearest to it, or zero if that is not finite. -/
def IsValueOf (negative : Bool) (size : Rat) (x : Binary64) : Prop :=
  ∃ y : Binary64, (∀ z : Binary64, z.IsNearest negative size ↔ z = y) ∧
    x = if y.isFinite then y else .zero false

theorem isValueOf_usable_nearest (d : Decimal) :
    IsValueOf d.negative d.size (usable d.nearest) := by
  refine ⟨d.nearest, fun z => ⟨fun h => h.unique d.nearest_isNearest, ?_⟩, rfl⟩
  rintro rfl
  exact d.nearest_isNearest

theorem ofText_isValueOf {cs : List Char} {negative : Bool} {size : Rat}
    (h : IsNumeral (Text.trim Text.isBlank cs) negative size) :
    IsValueOf negative size (ofText cs) := by
  obtain ⟨d, hdecimal, rfl, rfl⟩ := exists_decimal?_of_isNumeral h
  rw [ofText, hdecimal]
  exact isValueOf_usable_nearest d

theorem ofText_of_not_isNumeral {cs : List Char}
    (h : ∀ negative size, ¬ IsNumeral (Text.trim Text.isBlank cs) negative size) :
    ofText cs = .zero false := by
  cases hdecimal : decimal? cs with
  | none => rw [ofText, hdecimal]
  | some d => exact absurd (isNumeral_of_decimal? hdecimal) (h _ _)

theorem ofText_of_isSpecial {cs : List Char}
    (h : Numeral.IsSpecial (Text.trim Text.isBlank cs)) : ofText cs = .zero false := by
  refine ofText_of_not_isNumeral fun negative size hnumeral => ?_
  obtain ⟨c, hc, hdigit⟩ := hnumeral.exists_digit
  rw [h.no_digit c hc] at hdigit
  cases hdigit

theorem ofJson_integer_isValueOf (n : Int) :
    IsValueOf (n < 0) n.natAbs (ofJson (.integer n)) := by
  have htext : (Json.integer n).asText.toList = integerText n := String.toList_ofList
  have hsize : (⟨n < 0, n.natAbs, 0⟩ : Decimal).size = n.natAbs := by
    rw [Decimal.size, zpow_zero, mul_one]
  have hvalue := isValueOf_usable_nearest ⟨n < 0, n.natAbs, 0⟩
  change IsValueOf _ _ (ofText (Json.integer n).asText.toList)
  rw [htext, ofText_of_read? (Decimal.isNumeric_integerText n) (Decimal.read?_integerText n)]
  rwa [hsize] at hvalue

end Measure

/-- **A size is read exactly or not at all.**  A text that is a numeral, blanks at its ends aside,
is measured as the double nearest to the number that it denotes, with its sign, or as zero if that
double is infinite.  Any other text is measured as zero, the names of infinities and of nan among
them.  A number is measured as its text is; an integer is thus rounded like its digits, and a
finite double is measured as itself. -/
theorem sizes_are_read_exactly :
    (∀ (s : String) (negative : Bool) (size : Rat),
      IsNumeral (Text.trim Text.isBlank s.toList) negative size →
        Measure.IsValueOf negative size (Measure.ofJson (.text s))) ∧
    (∀ s : String,
      (∀ negative size, ¬ IsNumeral (Text.trim Text.isBlank s.toList) negative size) →
        Measure.ofJson (.text s) = .zero false) ∧
    (∀ s : String, Numeral.IsSpecial (Text.trim Text.isBlank s.toList) →
      Measure.ofJson (.text s) = .zero false) ∧
    (∀ n : Int,
      Measure.ofJson (.integer n) = Measure.ofJson (.text (Json.integer n).asText) ∧
        Measure.IsValueOf (n < 0) n.natAbs (Measure.ofJson (.integer n))) ∧
    ∀ x : Binary64,
      Measure.ofJson (.real x) = Measure.ofJson (.text (Json.real x).asText) ∧
        (x.isFinite = true → Measure.ofJson (.real x) = x) := by
  refine ⟨fun s negative size h => Measure.ofText_isValueOf h,
    fun s h => Measure.ofText_of_not_isNumeral h, fun s h => Measure.ofText_of_isSpecial h,
    fun n => ⟨rfl, Measure.ofJson_integer_isValueOf n⟩, fun x => ⟨rfl, Measure.ofJson_real⟩⟩

-- Digits of two scripts, an underscore between them and blanks at both ends.
def groupedText : String :=
  " ٣_0.5e-1\u2003"

theorem groupedText_isNumeral :
    IsNumeral (Text.trim Text.isBlank groupedText.toList) false (61 / 20) := by
  have htrim : Text.trim Text.isBlank groupedText.toList =
      ['٣', '_', '0', '.', '5', 'e', '-', '1'] := by decide +kernel
  have hwhole : Numeral.Spells ['٣', '0'] [3, 0] := .cons (by decide) (.cons (by decide) .nil)
  have hfraction : Numeral.Spells ['5'] [5] := .cons (by decide) .nil
  have hexponent : Numeral.Exponent ['e', '-', '1'] (-1) :=
    .marked List.mem_cons_self .minus (.cons (by decide) .nil) (List.cons_ne_nil 1 [])
  have hsize : ((Numeral.number [3, 0] : Rat) + Numeral.number [5] / 10 ^ 1) * 10 ^ (-1 : Int) =
      61 / 20 := by
    norm_num [Numeral.number]
  rw [htrim]
  refine ⟨by decide, ?_⟩
  rw [← hsize]
  exact .parts .absent hwhole (.point hfraction) hexponent (.inl (List.cons_ne_nil 3 [0]))

theorem sizes_are_read_exactly_samples :
    IsNumeral (Text.trim Text.isBlank groupedText.toList) false (61 / 20) ∧
      Measure.IsValueOf false (61 / 20) (Measure.ofJson (.text groupedText)) ∧
      Measure.ofJson (.text "1__0") = .zero false ∧
      Measure.ofJson (.text "-Infinity") = .zero false ∧
      Measure.ofJson (.real 0.1) = 0.1 := by
  obtain ⟨hnumeral, hother, hspecial, -, hreal⟩ := sizes_are_read_exactly
  have hnot : ∀ negative size,
      ¬ IsNumeral (Text.trim Text.isBlank "1__0".toList) negative size := by
    intro negative size h
    exact absurd h.grouped (by decide +kernel)
  have hname : Numeral.IsSpecial (Text.trim Text.isBlank "-Infinity".toList) := by
    have htrim : Text.trim Text.isBlank "-Infinity".toList = ['-'] ++ "Infinity".toList := by
      decide +kernel
    rw [htrim]
    exact .signed .minus (by decide +kernel)
  exact ⟨groupedText_isNumeral, hnumeral _ _ _ groupedText_isNumeral, hother _ hnot,
    hspecial _ hname, (hreal 0.1).2 (by decide +kernel)⟩

end Fenestration
