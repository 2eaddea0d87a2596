import Fenestration.Document
import Fenestration.Pricing.Arguments
import Fenestration.Project.Loading
import Fenestration.Proofs.Number.SpecialValues
import Fenestration.Proofs.Quote.WorkOrderPrice
import Mathlib.Data.List.Basic

/-!
# Quotes of nothing

A project with rooms may have nothing to quote, because it has no openings or because all of them
are left out.  Only a project without rooms is known to cost nothing; with rooms a sum of zero and a
count of zero are multiplied by the figures of the pricing, whatever these are.  Main statement:
the two agree as numbers just where the figures are finite, and down to the printed text just where
they have no sign (`unquoted_costs_nothing_iff`).
-/

namespace Fenestration

/-! ## The estimate of nothing -/

section Estimates

variable {α : Type}

def Project.withoutRooms (project : Project α) : Project α :=
  { project with rooms := [] }

/-- The amounts of a breakdown in the order in which a document shows them. -/
def Breakdown.amounts (breakdown : Breakdown α) : List α :=
  breakdown.lineAmounts ++ [breakdown.final]

variable [Sub α] [Div α] [NatCast α] [LE α] [DecidableLE α]

/-- No opening of the project is part of the quote. -/
def Project.QuotesNothing (project : Project α) (pricing : Pricing α) : Prop :=
  ∀ entry ∈ project.entries, entry.opening.quotedSize? (project.deduction pricing) = none

theorem Project.QuotesNothing.workOrder_eq_nil {project : Project α} {pricing : Pricing α}
    (h : project.QuotesNothing pricing) : project.workOrder pricing.timberDeduction = [] := by
  rw [workOrder, List.filterMap_eq_nil_iff]
  intro entry hentry
  have hnone := h entry hentry
  rw [deduction] at hnone
  rw [hnone, Option.map_none]

variable [Add α] [Mul α]

-- The loop over openings that are all left out ends where it begins.
theorem Project.QuotesNothing.estimate_eq {project : Project α} {pricing : Pricing α}
    (h : project.QuotesNothing pricing) (hrooms : project.rooms ≠ []) :
    project.estimate pricing =
      pricing.breakdown project.installation ((0 : Nat) : α) 0 := by
  rw [estimate_of_rooms _ _ hrooms, h.workOrder_eq_nil]
  rfl

theorem Project.estimate_of_no_rooms {project : Project α} (pricing : Pricing α)
    (h : project.rooms = []) : project.estimate pricing = .nothing := by
  rw [estimate, h]
  rfl

end Estimates

/-! ## Charges on nothing -/

/-- The figures that a breakdown multiplies by a sum or a count are finite. -/
structure Pricing.HasFiniteCharges (pricing : Pricing Binary64) (installation : Bool) : Prop where
  markup : pricing.markupRatio.isFinite = true
  factory : pricing.factoryCost.isFinite = true
  install : installation = true → pricing.installCost.isFinite = true

/-- These figures are finite, without a sign, and the markup ratio is at least one. -/
structure Pricing.HasUnsignedCharges (pricing : Pricing Binary64) (installation : Bool) : Prop where
  markup : pricing.markupRatio.isFinite = true ∧ ((1 : Nat) : Binary64) ≤ pricing.markupRatio
  factory : pricing.factoryCost.IsUnsigned
  install : installation = true → pricing.installCost.IsUnsigned

open Binary64

theorem Breakdown.forall_amounts_isZero_iff {subtotal markup factory install : Binary64} :
    (∀ amount ∈ (ofAmounts subtotal markup factory install).amounts, amount.IsZero) ↔
      subtotal.IsZero ∧ markup.IsZero ∧ factory.IsZero ∧ install.IsZero := by
  simp only [amounts, lineAmounts, ofAmounts, List.cons_append, List.nil_append,
    List.forall_mem_cons]
  constructor
  · rintro ⟨hsubtotal, hmarkup, hfactory, -, hinstall, -⟩
    exact ⟨hsubtotal, hmarkup, hfactory, hinstall⟩
  · rintro ⟨hsubtotal, hmarkup, hfactory, hinstall⟩
    have hbase := (hsubtotal.add hmarkup).add hfactory
    exact ⟨hsubtotal, hmarkup, hfactory, hbase, hinstall, hbase.add hinstall, by simp⟩

theorem Breakdown.nothing_isZero :
    ∀ amount ∈ (nothing : Breakdown Binary64).amounts, amount.IsZero := by
  have hzero : (zero false).IsZero := ⟨false, rfl⟩
  rw [nothing, natCast_zero, forall_amounts_isZero_iff]
  exact ⟨hzero, hzero, hzero, hzero⟩

theorem Breakdown.ofAmounts_eq_nothing_iff {markup factory install : Binary64} :
    ofAmounts (zero false) markup factory install = nothing ↔
      markup = zero false ∧ factory = zero false ∧ install = zero false := by
  rw [nothing, natCast_zero]
  constructor
  · intro h
    exact ⟨congrArg Breakdown.markup h, congrArg Breakdown.factory h, congrArg Breakdown.install h⟩
  · rintro ⟨rfl, rfl, rfl⟩
    rfl

-- A charge that is made only on request, on a count of zero.
section Requested

variable {requested : Bool} {x : Binary64}

theorem requested_isZero_iff :
    (if requested then zero false * x else zero false).IsZero ↔
      (requested = true → x.isFinite = true) := by
  cases requested with
  | true => simp [zero_mul_isZero_iff]
  | false => exact iff_of_true ⟨false, rfl⟩ fun h => by cases h

theorem requested_eq_zero_iff :
    (if requested then zero false * x else zero false) = zero false ↔
      (requested = true → x.IsUnsigned) := by
  cases requested with
  | true => simp [zero_mul_eq_zero_iff]
  | false => exact iff_of_true rfl fun h => by cases h

theorem requested_eq_nan_or_isZero (requested : Bool) (x : Binary64) :
    (if requested then zero false * x else zero false) = nan ∨
      (if requested then zero false * x else zero false).IsZero := by
  cases requested with
  | true => exact zero_mul_eq_nan_or_isZero x
  | false => exact .inr ⟨false, rfl⟩

end Requested

-- What a pricing makes of a sum of zero and a count of zero.
theorem Pricing.breakdown_zero (pricing : Pricing Binary64) (installation : Bool) :
    pricing.breakdown installation ((0 : Nat) : Binary64) 0 =
      .ofAmounts (zero false) (zero false * (pricing.markupRatio - ((1 : Nat) : Binary64)))
        (zero false * pricing.factoryCost)
        (if installation then zero false * pricing.installCost else zero false) := by
  rw [breakdown, natCast_zero]

theorem Pricing.breakdown_zero_isZero_iff (pricing : Pricing Binary64) (installation : Bool) :
    (∀ amount ∈ (pricing.breakdown installation ((0 : Nat) : Binary64) 0).amounts, amount.IsZero) ↔
      pricing.HasFiniteCharges installation := by
  rw [breakdown_zero, Breakdown.forall_amounts_isZero_iff, zero_mul_isZero_iff,
    zero_mul_isZero_iff, requested_isZero_iff, sub_one_isFinite_iff]
  constructor
  · rintro ⟨-, hmarkup, hfactory, hinstall⟩
    exact ⟨hmarkup, hfactory, hinstall⟩
  · rintro ⟨hmarkup, hfactory, hinstall⟩
    exact ⟨⟨false, rfl⟩, hmarkup, hfactory, hinstall⟩

theorem Pricing.breakdown_zero_eq_nothing_iff (pricing : Pricing Binary64) (installation : Bool) :
    pricing.breakdown installation ((0 : Nat) : Binary64) 0 = .nothing ↔
      pricing.HasUnsignedCharges installation := by
  rw [breakdown_zero, Breakdown.ofAmounts_eq_nothing_iff, zero_mul_eq_zero_iff,
    zero_mul_eq_zero_iff, requested_eq_zero_iff, sub_one_isUnsigned_iff]
  constructor
  · rintro ⟨hmarkup, hfactory, hinstall⟩
    exact ⟨hmarkup, hfactory, hinstall⟩
  · rintro ⟨hmarkup, hfactory, hinstall⟩
    exact ⟨hmarkup, hfactory, hinstall⟩

/-! ## The price in a document -/

/-- The amounts that a section shows, if it shows a total. -/
def Section.amountTexts (part : Section) : List String :=
  match part.total with
  | some total => part.rows.flatMap (·.drop 1) ++ [total.amount]
  | none => []

def Document.amountTexts (document : Document) : List String :=
  document.sections.flatMap Section.amountTexts

theorem Breakdown.amountTexts_priceSection (breakdown : Breakdown Binary64) (kind : DocumentKind) :
    (breakdown.priceSection kind).amountTexts = breakdown.amounts.map currencyText :=
  rfl

-- Of the sections of a copy with a price, only that of the price has a total.
theorem Project.amountTexts_document (project : Project Binary64) (pricing : Pricing Binary64)
    {kind : DocumentKind} (hkind : kind ≠ .production) :
    (project.document pricing kind).amountTexts =
      (project.estimate pricing).amounts.map currencyText := by
  have hschedules : (project.rooms.map Room.scheduleSection).flatMap Section.amountTexts = [] := by
    rw [List.flatMap_map, List.flatMap_eq_nil_iff]
    exact fun room _ => rfl
  have hmain : (project.mainSections pricing kind).flatMap Section.amountTexts =
      (project.estimate pricing).amounts.map currencyText := by
    cases kind with
    | production => exact absurd rfl hkind
    | _ =>
      rw [mainSections, List.flatMap_append, hschedules, List.nil_append, List.flatMap_cons,
        List.flatMap_nil, List.append_nil, Breakdown.amountTexts_priceSection]
      exact fun h => by cases h
  rw [Document.amountTexts, document, List.flatMap_append, List.flatMap_cons, hmain]
  have hoverview : project.overviewSection.amountTexts = [] := rfl
  have hterms : [termsSection].flatMap Section.amountTexts = [] := rfl
  rw [hoverview, hterms, List.nil_append, List.append_nil]

theorem currencyText_eq_zero_iff {x : Binary64} (h : x = .nan ∨ x.IsZero) :
    currencyText x = "$0.00" ↔ x = zero false := by
  obtain rfl | ⟨_ | _, rfl⟩ := h
  · exact iff_of_false (by decide +kernel) (fun h => by cases h)
  · exact iff_of_true (by decide +kernel) rfl
  · exact iff_of_false (by decide +kernel) (fun h => by cases h)

theorem Breakdown.texts_nothing :
    (nothing : Breakdown Binary64).amounts.map currencyText = List.replicate 6 "$0.00" := by
  decide +kernel

theorem Pricing.breakdown_zero_texts_iff (pricing : Pricing Binary64) (installation : Bool) :
    (pricing.breakdown installation ((0 : Nat) : Binary64) 0).amounts.map currencyText =
        List.replicate 6 "$0.00" ↔
      pricing.HasUnsignedCharges installation := by
  rw [← breakdown_zero_eq_nothing_iff]
  constructor
  · intro h
    rw [breakdown_zero] at h ⊢
    simp only [Breakdown.amounts, Breakdown.lineAmounts, Breakdown.ofAmounts, List.cons_append,
      List.nil_append, List.map_cons, List.map_nil, List.replicate_succ, List.replicate_zero,
      List.cons.injEq, currencyText_eq_zero_iff (zero_mul_eq_nan_or_isZero _),
      currencyText_eq_zero_iff (requested_eq_nan_or_isZero _ _)] at h
    exact Breakdown.ofAmounts_eq_nothing_iff.mpr ⟨h.2.1, h.2.2.1, h.2.2.2.2.1⟩
  · intro h
    rw [h, Breakdown.texts_nothing]

/-- **Nothing quoted costs nothing, if the figures allow it.**  A project without an opening in the
quote has the amounts of a project without rooms, as numbers, just if it has no rooms or the charges
are finite; the breakdowns are equal, and a copy with a price shows six times nothing, just if it
has no rooms or the charges have no sign either. -/
theorem unquoted_costs_nothing_iff (pricing : Pricing Binary64) {project : Project Binary64}
    (hnone : project.QuotesNothing pricing) :
    project.withoutRooms.estimate pricing = ⟨0, 0, 0, 0, 0, 0⟩ ∧
    ((∀ amount ∈ (project.estimate pricing).amounts, amount.IsZero) ↔
      project.rooms = [] ∨ pricing.HasFiniteCharges project.installation) ∧
    (project.estimate pricing = project.withoutRooms.estimate pricing ↔
      project.rooms = [] ∨ pricing.HasUnsignedCharges project.installation) ∧
    ∀ kind ≠ DocumentKind.production,
      (project.document pricing kind).amountTexts = List.replicate 6 "$0.00" ↔
        project.rooms = [] ∨ pricing.HasUnsignedCharges project.installation := by
  have hwithout : project.withoutRooms.estimate pricing = .nothing :=
    Project.estimate_of_no_rooms pricing rfl
  rw [hwithout]
  refine ⟨Breakdown.nothing_eq, ?_⟩
  by_cases hrooms : project.rooms = []
  · have hestimate := Project.estimate_of_no_rooms pricing hrooms
    refine ⟨?_, ?_, fun kind hkind => ?_⟩
    · rw [hestimate]
      exact iff_of_true Breakdown.nothing_isZero (.inl hrooms)
    · exact iff_of_true hestimate (.inl hrooms)
    · rw [Project.amountTexts_document project pricing hkind, hestimate]
      exact iff_of_true Breakdown.texts_nothing (.inl hrooms)
  · have hestimate := hnone.estimate_eq hrooms
    refine ⟨?_, ?_, fun kind hkind => ?_⟩
    · rw [hestimate, or_iff_right hrooms]
      exact pricing.breakdown_zero_isZero_iff _
    · rw [hestimate, or_iff_right hrooms]
      exact pricing.breakdown_zero_eq_nothing_iff _
    · rw [Project.amountTexts_document project pricing hkind, hestimate, or_iff_right hrooms]
      exact pricing.breakdown_zero_texts_iff _

-- A request for one room without windows.
def hallFields : Json.Fields :=
  [("rooms", .list [.object [("name", .text "Hall")]])]

def hall : Project Binary64 where
  frame := .aluminium
  glazing := ""
  installation := false
  frameColour := none
  quoteName := none
  rooms := [⟨"Hall", []⟩]

theorem load_hallFields : Project.load hallFields = .ok hall := by
  decide +kernel

theorem hall_quotesNothing (pricing : Pricing Binary64) : hall.QuotesNothing pricing := by
  have hentries : hall.entries = [] := rfl
  simp [Project.QuotesNothing, hentries]

-- Installation is requested for two windows, of which neither is left after the deduction.
def cellar : Project Binary64 where
  frame := .timber
  glazing := ""
  installation := true
  frameColour := none
  quoteName := none
  rooms := [⟨"Cellar", [⟨"F", 1000, 50⟩, ⟨"A-F", 0, 900⟩]⟩]

theorem unquoted_costs_nothing_iff_hall :
    hall.QuotesNothing .standard ∧
      hall.estimate .standard = hall.withoutRooms.estimate .standard ∧
      (hall.document .standard .customer).amountTexts = List.replicate 6 "$0.00" ∧
      cellar.QuotesNothing .standard ∧ cellar.entries.length = 2 ∧
      cellar.estimate .standard = cellar.withoutRooms.estimate .standard ∧
      (cellar.document .standard .sales).amountTexts = List.replicate 6 "$0.00" := by
  have hcharges (installation : Bool) : Pricing.standard.HasUnsignedCharges installation :=
    { markup := by decide +kernel
      factory := by decide +kernel
      install := fun _ => by decide +kernel }
  have hcellar : cellar.QuotesNothing .standard := by
    unfold Project.QuotesNothing
    decide +kernel
  obtain ⟨-, -, hequal, htexts⟩ :=
    unquoted_costs_nothing_iff .standard (hall_quotesNothing .standard)
  obtain ⟨-, -, hequalCellar, htextsCellar⟩ := unquoted_costs_nothing_iff .standard hcellar
  exact ⟨hall_quotesNothing .standard, hequal.mpr (.inr (hcharges _)),
    (htexts .customer (by decide)).mpr (.inr (hcharges _)), hcellar, rfl,
    hequalCellar.mpr (.inr (hcharges _)), (htextsCellar .sales (by decide)).mpr (.inr (hcharges _))⟩

-- An infinite markup ratio makes the price of nothing nan, and one below one gives it a sign.
theorem hall_costs_something :
    (∃ pricing, Pricing.ofArguments [("markup_ratio", .text "inf")] = .ok pricing ∧
      Project.load hallFields = .ok hall ∧ hall.QuotesNothing pricing ∧
      hall.estimate pricing = ⟨0, .nan, 0, .nan, 0, .nan⟩ ∧
      hall.withoutRooms.estimate pricing = ⟨0, 0, 0, 0, 0, 0⟩) ∧
    ∃ pricing, Pricing.ofArguments [("markup_ratio", .text "0.9")] = .ok pricing ∧
      hall.QuotesNothing pricing ∧
      (hall.document pricing .customer).amountTexts =
        ["$0.00", "$-0.00", "$0.00", "$0.00", "$0.00", "$0.00"] := by
  refine ⟨⟨{ Pricing.standard with markupRatio := .infinite false }, by decide +kernel,
    load_hallFields, hall_quotesNothing _, by decide +kernel, by decide +kernel⟩,
    { Pricing.standard with markupRatio := 0.9 }, by decide +kernel, hall_quotesNothing _,
    by decide +kernel⟩

end Fenestration
