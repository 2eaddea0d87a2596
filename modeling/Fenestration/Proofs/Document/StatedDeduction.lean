import Fenestration.Document
import Fenestration.Proofs.Number.Nonnegative
import Fenestration.Proofs.Number.ShownPlaces
import Fenestration.Proofs.Quote.CutSizes

/-!
# The deduction that a document states

The overview of a timber project names the millimetres that the frame takes, and the windows of the
same document are cut smaller by what the pricing takes for timber.  The first is a text that is the
same for every pricing.  Main statement: a document states the deduction that its windows are cut by
just where that is 60 mm (`stated_deduction_eq_iff`).
-/

namespace Fenestration

open Binary64 (ofSignedUnits signed unitsPerOne)

/-! ## Exact values -/

/-- The exact number that a finite double stands for. -/
def Binary64.exactValue? : Binary64 → Option Rat
  | .finite negative mag _ => some (ofSignedUnits negative mag)
  | _ => none

namespace Binary64

theorem exactValue?_finite (negative : Bool) {mag : Nat} (fits : Representable mag) :
    (finite negative mag fits).exactValue? = some (ofSignedUnits negative mag) :=
  rfl

theorem exactValue?_natCast {n : Nat} (h : n ≤ twoPow 53) :
    (n : Binary64).exactValue? = some (n : Rat) := by
  have hlt : n * unitsPerOne < overflowMag := by
    have hle : n * unitsPerOne ≤ twoPow 53 * unitsPerOne := Nat.mul_le_mul_right _ h
    rw [unitsPerOne, ← twoPow_add] at hle
    exact Nat.lt_of_le_of_lt hle (twoPow_lt_twoPow (by decide))
  have fits : Representable (n * unitsPerOne) := ⟨hlt, hasDigits_of_le 1074 h⟩
  have hne : (unitsPerOne : Rat) ≠ 0 := Nat.cast_ne_zero.mpr (Nat.ne_of_gt unitsPerOne_pos)
  have hcast := natCast_eq_ofUnits n
  rw [← Nat.mul_one (n * unitsPerOne), ofUnits_eq_finite fits Nat.one_pos] at hcast
  rw [hcast, exactValue?_finite, ofSignedUnits, signed, if_neg Bool.false_ne_true, Int.cast_natCast,
    Nat.cast_mul, mul_div_cancel_right₀ _ hne]

theorem ofSignedUnits_inj {a b : Bool} {m n : Nat} (h : ofSignedUnits a m = ofSignedUnits b n)
    (hne : ofSignedUnits a m ≠ 0) : a = b ∧ m = n := by
  have hone : (unitsPerOne : Rat) ≠ 0 := Nat.cast_ne_zero.mpr (Nat.ne_of_gt unitsPerOne_pos)
  rw [ofSignedUnits, ofSignedUnits, div_left_inj' hone, Int.cast_inj] at h
  obtain ⟨rfl, hsign⟩ := eq_of_signed_eq h
  refine ⟨hsign.resolve_right ?_, rfl⟩
  rintro rfl
  have hzero : signed a 0 = 0 := by cases a <;> rfl
  exact hne (by rw [ofSignedUnits, hzero, Int.cast_zero, zero_div])

-- A number other than zero is the value of one double.
theorem eq_of_exactValue?_eq {x y : Binary64} {v : Rat} (hv : v ≠ 0) (hx : x.exactValue? = some v)
    (hy : y.exactValue? = some v) : x = y := by
  cases x with
  | nan => cases hx
  | infinite => cases hx
  | finite a m hm =>
    cases y with
    | nan => cases hy
    | infinite => cases hy
    | finite b n hn =>
      rw [exactValue?_finite, Option.some.injEq] at hx hy
      obtain ⟨rfl, rfl⟩ := ofSignedUnits_inj (hx.trans hy.symm) (hx ▸ hv)
      rfl

theorem exactValue?_eq_natCast_iff {n : Nat} (hpos : n ≠ 0) (h : n ≤ twoPow 53) {x : Binary64} :
    x.exactValue? = some (n : Rat) ↔ x = (n : Binary64) := by
  constructor
  · intro hx
    exact eq_of_exactValue?_eq (Nat.cast_ne_zero.mpr hpos) hx (exactValue?_natCast h)
  · intro hx
    rw [hx]
    exact exactValue?_natCast h

end Binary64

/-! ## The two deductions -/

/-- The number of millimetres that a text names, in front of their unit. -/
def namedMillimetres? (text : String) : Option Decimal :=
  let fromNumber := text.toList.dropWhile fun c => !c.isDigit
  let number := fromNumber.takeWhile fun c => c.isDigit || c = '.'
  if ['m', 'm'].isPrefixOf (fromNumber.drop number.length) then Decimal.read? number else none

example : (namedMillimetres? "Timber (-62.5mm Deduction)").map Decimal.value = some 62.5 := by
  decide +kernel

-- What stands beside a label in the rows of a section.
def Section.valueOf? (part : Section) (label : String) : Option String :=
  (part.rows.find? fun row => row.head? = some label).bind (·[1]?)

/-- The deduction that the overview of a document names. -/
def Document.statedDeduction? (document : Document) : Option Rat :=
  (document.sections.find? fun part => part.title = "Project Overview").bind fun overview =>
    ((overview.valueOf? "Existing Frame Type").bind namedMillimetres?).map Decimal.value

theorem Project.statedDeduction?_document {project : Project Binary64}
    (h : project.frame = .timber) (pricing : Pricing Binary64) (kind : DocumentKind) :
    (project.document pricing kind).statedDeduction? = some 60 := by
  have hlabel : project.overviewSection.valueOf? "Existing Frame Type" =
      some Frame.timber.label := by
    rw [← h]
    rfl
  have hnumber : (namedMillimetres? Frame.timber.label).map Decimal.value = some 60 := by
    decide +kernel
  have hoverview : (project.document pricing kind).sections.find?
      (fun part => part.title = "Project Overview") = some project.overviewSection :=
    List.find?_cons_of_pos rfl
  rw [Document.statedDeduction?, hoverview, Option.bind_some, hlabel, Option.bind_some, hnumber]

theorem Project.cut_of_mem_workOrder {project : Project Binary64} {timberDeduction : Binary64}
    {job : Job Binary64} (h : job ∈ project.workOrder timberDeduction) :
    job.cut = job.opening.cutSize (project.frame.deduction timberDeduction) := by
  rw [workOrder_eq_map] at h
  obtain ⟨entry, -, rfl⟩ := List.mem_map.mp h
  rfl

/-- **A timber document names 60 mm, whatever is deducted.**  Every window of its work order is cut
smaller by what the pricing takes for timber, and the document states that deduction just where it
is 60. -/
theorem stated_deduction_eq_iff {project : Project Binary64} (h : project.frame = .timber)
    (pricing : Pricing Binary64) (kind : DocumentKind) :
    (project.document pricing kind).statedDeduction? = some 60 ∧
      ∀ job ∈ project.workOrder pricing.timberDeduction,
        job.cut = job.opening.cutSize (project.deduction pricing) ∧
          ((project.document pricing kind).statedDeduction? =
              (project.deduction pricing).exactValue? ↔
            pricing.timberDeduction = 60) := by
  have hstated := Project.statedDeduction?_document h pricing kind
  have hdeduction : project.deduction pricing = pricing.timberDeduction := by
    rw [Project.deduction, h, Frame.deduction]
  have hsmall : 60 ≤ twoPow 53 := by decide
  have hsixty : pricing.timberDeduction.exactValue? = some 60 ↔ pricing.timberDeduction = 60 :=
    Binary64.exactValue?_eq_natCast_iff (by decide) hsmall
  refine ⟨hstated, fun job hjob => ⟨Project.cut_of_mem_workOrder hjob, ?_⟩⟩
  rw [hstated, hdeduction, ← hsixty]
  exact eq_comm

theorem stated_deduction_eq_iff_kitchen :
    kitchen.frame = .timber ∧ Pricing.standard.timberDeduction = 60 ∧
      (kitchen.workOrder Pricing.standard.timberDeduction).length = 1 ∧
      ∀ job ∈ kitchen.workOrder Pricing.standard.timberDeduction,
        (kitchen.document .standard .production).statedDeduction? =
          (kitchen.deduction .standard).exactValue? := by
  have htimber : kitchen.frame = .timber := rfl
  obtain ⟨-, hjobs⟩ := stated_deduction_eq_iff htimber .standard .production
  exact ⟨htimber, rfl, by decide +kernel, fun job hjob => (hjobs job hjob).2.mpr rfl⟩

-- With a deduction of 45 mm the window is cut by 45 mm, in the document that names 60 mm.
theorem kitchen_states_another_deduction :
    ∃ pricing, Pricing.ofArguments [("timber_deduction_mm", .integer 45)] = .ok pricing ∧
      pricing.timberDeduction.isFinite = true ∧
      Project.load kitchenFields = .ok kitchen ∧
      ∃ job ∈ kitchen.workOrder pricing.timberDeduction,
        job.cut = job.opening.cutSize (kitchen.deduction pricing) ∧
          (kitchen.document pricing .production).statedDeduction? ≠
            (kitchen.deduction pricing).exactValue? := by
  let entry : Entry Binary64 := ⟨"Kitchen", 1, ⟨"F", 1000, 1000⟩⟩
  have hsmall : 45 ≤ twoPow 53 := by decide
  have hforty : (45 : Binary64).exactValue? = some 45 := Binary64.exactValue?_natCast hsmall
  refine ⟨{ Pricing.standard with timberDeduction := 45 }, by decide +kernel, by decide +kernel,
    load_kitchenFields, entry.job kitchen.glazing ⟨955, 955⟩, by decide +kernel,
    by decide +kernel, ?_⟩
  rw [Project.statedDeduction?_document rfl]
  change some (60 : Rat) ≠ (45 : Binary64).exactValue?
  rw [hforty]
  decide

end Fenestration
