import Fenestration.Document
import Fenestration.Proofs.Document.Copies
import Fenestration.Proofs.Loading.Shapes
import Fenestration.Proofs.Number.ExactPlaces
import Fenestration.Proofs.Number.ReadBack

/-!
# Schedules read back

A schedule shows a whole size by all its digits and any other size by its shortest decimal, and
reading a size knows nothing of that choice.  Main statement: the openings of a room are loaded
again, in order, from the texts of its schedule (`schedule_reads_back`); nothing but the sign of a
zero is lost.
-/

namespace Fenestration

open Json (Fields fieldOf)

/-! ## Sizes -/

-- A whole number that a double can hold is not rounded.
theorem Decimal.nearest_whole (negative : Bool) {n : Nat}
    (fits : Representable (n * Binary64.unitsPerOne)) :
    (⟨negative, n, 0⟩ : Decimal).nearest = .finite negative (n * Binary64.unitsPerOne) fits := by
  have hratio : (⟨negative, n, 0⟩ : Decimal).ratio = (n, 1) := by
    rw [ratio_of_nonneg (Int.le_refl 0)]
    exact congrArg (·, 1) (Nat.mul_one n)
  have hexact : Binary64.ofUnits negative _ 1 = .finite negative _ fits :=
    Binary64.ofUnits_eq_finite fits Nat.one_pos
  rw [Nat.mul_one] at hexact
  rw [nearest_eq_ofRatio, hratio]
  exact hexact

namespace Measure

/-- A size without the sign of a negative zero. -/
def withoutZeroSign (x : Binary64) : Binary64 :=
  if x = .zero true then .zero false else x

theorem withoutZeroSign_finite (negative : Bool) {mag : Nat} (fits : Representable mag) :
    withoutZeroSign (.finite negative mag fits) = .finite (negative && mag ≠ 0) mag fits := by
  unfold withoutZeroSign
  by_cases hzero : mag = 0
  · subst hzero
    cases negative with
    | false => rfl
    | true => rfl
  · have hne : Binary64.finite negative mag fits ≠ .zero true := by
      intro h
      injection h with _ hmag
      exact hzero hmag
    have hsign : (negative && decide (mag ≠ 0)) = negative := by simp [hzero]
    rw [if_neg hne, hsign]

-- A whole number of millimetres, shown by its digits.
theorem ofText_wholeText (negative : Bool) {n : Nat}
    (fits : Representable (n * Binary64.unitsPerOne)) :
    ofText (integerText (Binary64.signed negative n)) =
      withoutZeroSign (.finite negative (n * Binary64.unitsPerOne) fits) := by
  have hpos := Binary64.unitsPerOne_pos
  have hsign : decide (Binary64.signed negative n < 0) =
      (negative && decide (n * Binary64.unitsPerOne ≠ 0)) := by
    rw [Bool.eq_iff_iff, Bool.and_eq_true, decide_eq_true_eq, decide_eq_true_eq,
      Nat.mul_ne_zero_iff]
    cases negative with
    | false => simp [Binary64.signed]
    | true =>
      simp only [Binary64.signed, if_true, true_and]
      omega
  rw [ofText_of_read? (Decimal.isNumeric_integerText _) (Decimal.read?_integerText _),
    Binary64.natAbs_signed, Decimal.nearest_whole _ fits, hsign, withoutZeroSign_finite]
  rfl

/-- A finite size is read from its text, but for the sign of a negative zero. -/
theorem ofJson_text {x : Binary64} (h : x.isFinite = true) :
    ofJson (.text (text x)) = withoutZeroSign x := by
  cases x with
  | finite negative mag fits =>
    change ofText (text _).toList = _
    unfold text
    dsimp only
    by_cases hwhole : mag % Binary64.unitsPerOne = 0
    · rw [if_pos hwhole, String.toList_ofList]
      have hmag := Nat.div_mul_cancel (Nat.dvd_of_mod_eq_zero hwhole)
      generalize mag / Binary64.unitsPerOne = n at hmag
      subst hmag
      exact ofText_wholeText negative fits
    · have hne : mag ≠ 0 := by
        rintro rfl
        exact hwhole (Nat.zero_mod _)
      have htext : (toString (Binary64.finite negative mag fits)).toList =
          (Binary64.finite negative mag fits).text := String.toList_ofList
      have hsign : (negative && decide (mag ≠ 0)) = negative := by simp [hne]
      rw [if_neg hwhole, htext, ofText_text, withoutZeroSign_finite, hsign]
  | _ => cases h

end Measure

theorem Binary64.sameNumber_self {x : Binary64} (h : x.isFinite = true) :
    x.sameNumber x = true := by
  cases x with
  | finite negative mag fits => exact beq_self_eq_true _
  | _ => cases h

theorem Measure.withoutZeroSign_sameNumber {x : Binary64} (h : x.isFinite = true) :
    (withoutZeroSign x).sameNumber x = true := by
  unfold withoutZeroSign
  by_cases hzero : x = .zero true
  · rw [if_pos hzero, hzero]
    rfl
  · rw [if_neg hzero]
    exact Binary64.sameNumber_self h

/-! ## Rows -/

/-- The request for a window whose style and sizes are the texts in a row of a schedule. -/
def requestOfRow (row : List String) : Json :=
  .object
    [("style", .text (row.getD 1 "")), ("width", .text (row.getD 2 "")),
      ("height", .text (row.getD 3 ""))]

/-- The second size is the first as a number, and the same double unless that is a negative zero. -/
structure Binary64.ReadsBackAs (x y : Binary64) : Prop where
  sameNumber : y.sameNumber x = true
  eq_of_ne : x ≠ zero true → y = x

/-- The second opening is what the first is loaded as again. -/
structure Opening.ReadsBackAs (a b : Opening Binary64) : Prop where
  style : b.style = a.style
  width : a.width.ReadsBackAs b.width
  height : a.height.ReadsBackAs b.height

theorem Measure.readsBackAs_withoutZeroSign {x : Binary64} (h : x.isFinite = true) :
    x.ReadsBackAs (withoutZeroSign x) where
  sameNumber := withoutZeroSign_sameNumber h
  eq_of_ne hne := if_neg hne

/-- Every opening of the room is measured by finite sizes. -/
def Room.IsMeasured (room : Room Binary64) : Prop :=
  ∀ opening ∈ room.openings, opening.width.isFinite = true ∧ opening.height.isFinite = true

-- What an opening is loaded as again.
def Opening.withoutZeroSigns (opening : Opening Binary64) : Opening Binary64 :=
  { opening with
    width := Measure.withoutZeroSign opening.width
    height := Measure.withoutZeroSign opening.height }

theorem Loading.opening_requestOfRow {opening : Opening Binary64}
    (hwidth : opening.width.isFinite = true) (hheight : opening.height.isFinite = true)
    (number : Nat) :
    Loading.opening (requestOfRow (opening.scheduleRow number)) =
      .ok opening.withoutZeroSigns := by
  let fields : Fields := [("style", .text opening.style),
    ("width", .text (Measure.text opening.width)), ("height", .text (Measure.text opening.height))]
  have hstyle : fieldOf fields "style" = .text opening.style := Json.fieldOf_of_lookup rfl
  have hwidthField : fieldOf fields "width" = .text (Measure.text opening.width) :=
    Json.fieldOf_of_lookup rfl
  have hheightField : fieldOf fields "height" = .text (Measure.text opening.height) :=
    Json.fieldOf_of_lookup rfl
  change Except.ok (openingOf fields) = _
  rw [openingOf, hstyle, hwidthField, hheightField, Measure.ofJson_text hwidth,
    Measure.ofJson_text hheight]
  rfl

theorem Room.load_scheduleRows {room : Room Binary64} (h : room.IsMeasured) :
    Loading.items Loading.opening (.list (room.scheduleRows.map requestOfRow)) =
      .ok (room.openings.map Opening.withoutZeroSigns) := by
  have hopenings : room.openings.map Opening.withoutZeroSigns =
      (room.openings.zipIdx 1).map fun numbered => numbered.1.withoutZeroSigns := by
    conv_lhs => rw [← List.zipIdx_map_fst 1 room.openings, List.map_map]
    rfl
  apply Loading.items_of_forall₂
  rw [hopenings, scheduleRows, List.map_map, List.forall₂_map_left_iff,
    List.forall₂_map_right_iff, List.forall₂_same]
  intro numbered hnumbered
  obtain ⟨hwidth, hheight⟩ := h _ (List.fst_mem_of_mem_zipIdx hnumbered)
  exact Loading.opening_requestOfRow hwidth hheight numbered.2

theorem Loading.room_isMeasured {fields : Fields} {project : Project Binary64}
    (h : Project.load fields = .ok project) {room : Room Binary64} (hroom : room ∈ project.rooms) :
    room.IsMeasured :=
  (isFrom_of_load h).isMeasured room hroom

/-- **A schedule loses nothing.**  Rooms of loaded projects have finite sizes.  If the sizes of a
room are finite, the texts in the rows of its schedule are loaded as openings again, one for one
and in order, with the same styles and with sizes that are the same numbers; only a negative zero
becomes zero.  In general a finite size is read from its text. -/
theorem schedule_reads_back :
    (∀ fields project, Project.load fields = .ok project →
      ∀ room ∈ project.rooms, room.IsMeasured) ∧
    (∀ room : Room Binary64, room.IsMeasured →
      ∃ openings,
        Loading.items Loading.opening (.list (room.scheduleRows.map requestOfRow)) =
            .ok openings ∧
          List.Forall₂ Opening.ReadsBackAs room.openings openings) ∧
    ∀ x : Binary64, x.isFinite = true →
      x.ReadsBackAs (Measure.ofJson (.text (Measure.text x))) := by
  refine ⟨fun _ _ hload _ hroom => Loading.room_isMeasured hload hroom,
    fun room h => ⟨_, Room.load_scheduleRows h, ?_⟩, fun x h => ?_⟩
  · rw [List.forall₂_map_right_iff, List.forall₂_same]
    intro opening hopening
    obtain ⟨hwidth, hheight⟩ := h opening hopening
    exact ⟨rfl, Measure.readsBackAs_withoutZeroSign hwidth,
      Measure.readsBackAs_withoutZeroSign hheight⟩
  · rw [Measure.ofJson_text h]
    exact Measure.readsBackAs_withoutZeroSign h

-- A request with a huge size, the smallest one, one just beside a whole number and a negative zero.
def extremeFields : Fields :=
  [("rooms", .list [.object [("name", .text "Attic"), ("windows", .list
    [.object [("style", .text "A-F"), ("width", .text "1e300"), ("height", .text "5e-324")],
      .object [("width", .real 1.0000000000000002), ("height", .text "-0")]])]])]

def attic : Room Binary64 :=
  ⟨"Attic", [⟨"A-F", 1e300, 5e-324⟩, ⟨"", 1.0000000000000002, Binary64.zero true⟩]⟩

def atticProject : Project Binary64 :=
  { (Project.empty : Project Binary64) with rooms := [attic] }

theorem schedule_reads_back_attic :
    Project.load extremeFields = .ok atticProject ∧
      attic.IsMeasured ∧
      (∃ openings,
        Loading.items Loading.opening (.list (attic.scheduleRows.map requestOfRow)) =
            .ok openings ∧
          List.Forall₂ Opening.ReadsBackAs attic.openings openings) ∧
      Binary64.ReadsBackAs 1e300 (Measure.ofJson (.text (Measure.text 1e300))) := by
  have hload : Project.load extremeFields = .ok atticProject := by decide +kernel
  obtain ⟨hmeasured, hrooms, hsizes⟩ := schedule_reads_back
  have hattic : attic.IsMeasured := hmeasured _ _ hload attic List.mem_cons_self
  exact ⟨hload, hattic, hrooms attic hattic, hsizes 1e300 (by decide +kernel)⟩

end Fenestration
