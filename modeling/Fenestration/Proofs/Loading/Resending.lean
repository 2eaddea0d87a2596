import Fenestration.Answer
import Fenestration.Proofs.Loading.Shapes
import Fenestration.Proofs.Number.ReadBack

/-!
# Sending a loaded project again

Loading settles every field of a project: texts are no values of another kind any more, an empty
colour or name has become none, and sizes are finite doubles.  What is settled is loaded as it is.
Main statement: `load_request`, that a project which was loaded from some request is loaded
unchanged from the request that holds its own fields.
-/

namespace Fenestration

open Json (Fields fieldOf)

/-! ## Texts of values -/

theorem Decimal.text_ne_nil (d : Decimal) : d.text ≠ [] := by
  unfold text
  refine List.append_ne_nil_of_right_ne_nil _ ?_
  split
  · exact List.cons_ne_nil _ _
  · split
    · unfold positionalText
      split
      · exact List.cons_ne_nil _ _
      · split <;> simp
    · simp [exponentText]

theorem Binary64.text_ne_nil (x : Binary64) : x.text ≠ [] := by
  cases x with
  | nan => exact List.cons_ne_nil _ _
  | infinite negative => exact List.append_ne_nil_of_right_ne_nil _ (List.cons_ne_nil _ _)
  | finite negative mag fits => exact Decimal.text_ne_nil _

theorem Json.written_ne_empty (value : Json) : value.written ≠ "" := by
  cases value with
  | null => decide
  | bool value => cases value <;> decide
  | integer value =>
    have hdigits : integerText value ≠ [] :=
      List.append_ne_nil_of_right_ne_nil _ Nat.toDigits_ne_nil
    simpa [written] using hdigits
  | real value => simpa [written, toString] using value.text_ne_nil
  | text value => simp [written, Text.quoted]
  | list items => simp [written]
  | object fields => simp [written]

theorem Json.asText?_ne_empty (value : Json) : value.asText? ≠ some "" := by
  cases value with
  | null => exact fun h => by cases h
  | text value =>
    change (if value.isEmpty then none else some value) ≠ some ""
    by_cases hempty : value.isEmpty = true
    · rw [if_pos hempty]
      exact fun h => by cases h
    · rw [if_neg hempty]
      intro h
      exact hempty (Option.some.inj h ▸ rfl)
  | _ =>
    intro h
    exact written_ne_empty _ (Option.some.inj h)

theorem Json.asText?_ofText? {value : Option String} (h : value ≠ some "") :
    (ofText? value).asText? = value := by
  cases value with
  | none => rfl
  | some text =>
    have hne : text.isEmpty = false := by simpa using h
    simp [ofText?, asText?, hne]

/-! ## Settled projects -/

/-- The project is measured, and a text that may be wanting is not there as the empty text. -/
structure Project.IsSettled (project : Project Binary64) : Prop where
  measured : project.IsMeasured
  frameColour : project.frameColour ≠ some ""
  quoteName : project.quoteName ≠ some ""

theorem Loading.IsFrom.isSettled {project : Project Binary64} {fields : Fields}
    (h : IsFrom project fields) : project.IsSettled where
  measured := h.isMeasured
  frameColour := by
    rw [h.choices]
    exact Json.asText?_ne_empty _
  quoteName := by
    rw [h.choices]
    exact Json.asText?_ne_empty _

/-! ## The request -/

-- The words by which a request names a frame, and by which it asks for installation or not.
def Frame.word : Frame → String
  | .timber => "timber"
  | .aluminium => "aluminium"

def installationWord (installation : Bool) : String :=
  if installation then "yes" else "no"

/-- The request that holds the fields of a project as they are; what is wanting is null. -/
def Project.request (project : Project Binary64) : Fields :=
  [("quoteName", .ofText? project.quoteName),
    ("existingFrame", .text project.frame.word),
    ("glazingType", .text project.glazing),
    ("installationCosts", .text (installationWord project.installation)),
    ("frameColor", .ofText? project.frameColour),
    ("rooms", .list (project.rooms.map Room.toJson))]

namespace Loading

theorem items_map {β : Type} {load : Json → Checked β} {encode : β → Json} {values : List β}
    (h : ∀ value ∈ values, load (encode value) = .ok value) :
    items load (.list (values.map encode)) = .ok values := by
  apply items_of_forall₂
  rw [List.forall₂_map_left_iff]
  exact List.forall₂_same.mpr h

theorem opening_toJson {opening : Opening Binary64} (hwidth : opening.width.isFinite = true)
    (hheight : opening.height.isFinite = true) :
    Loading.opening opening.toJson = .ok opening := by
  let fields : Fields := [("style", .text opening.style), ("width", .real opening.width),
    ("height", .real opening.height)]
  have hstyle : fieldOf fields "style" = .text opening.style := Json.fieldOf_of_lookup rfl
  have hwidthField : fieldOf fields "width" = .real opening.width := Json.fieldOf_of_lookup rfl
  have hheightField : fieldOf fields "height" = .real opening.height := Json.fieldOf_of_lookup rfl
  have hfields : openingOf fields = opening := by
    rw [openingOf, hstyle, hwidthField, hheightField, Measure.ofJson_real hwidth,
      Measure.ofJson_real hheight]
    rfl
  exact congrArg Except.ok hfields

theorem room_toJson {room : Room Binary64}
    (h : ∀ opening ∈ room.openings,
      opening.width.isFinite = true ∧ opening.height.isFinite = true) :
    Loading.room room.toJson = .ok room := by
  have hopenings : items Loading.opening (.list (room.openings.map Opening.toJson)) =
      .ok room.openings :=
    items_map fun opening hopening =>
      opening_toJson (h opening hopening).1 (h opening hopening).2
  change ((items Loading.opening (.list (room.openings.map Opening.toJson))).under
    (.field "windows")).map _ = _
  rw [hopenings]
  rfl

theorem frame_word (kind : Frame) : Loading.frame (.text kind.word) = kind := by
  cases kind <;> decide

theorem isText_installationWord (installation : Bool) :
    isText "yes" (.text (installationWord installation)) = installation := by
  cases installation <;> decide

theorem projectOf_request {project : Project Binary64} (h : project.IsSettled) :
    projectOf project.request project.rooms = project :=
  Project.ext (frame_word project.frame) rfl (isText_installationWord project.installation)
    (Json.asText?_ofText? h.frameColour) (Json.asText?_ofText? h.quoteName) rfl

theorem load_request_of_isSettled {project : Project Binary64} (h : project.IsSettled) :
    Project.load project.request = .ok project := by
  have hrooms : items Loading.room (.list (project.rooms.map Room.toJson)) = .ok project.rooms :=
    items_map fun room hroom => room_toJson (h.measured room hroom)
  change ((items Loading.room (.list (project.rooms.map Room.toJson))).under
    (.field "rooms")).map _ = _
  rw [hrooms]
  exact congrArg Except.ok (projectOf_request h)

end Loading

/-- **Loading is a retraction.**  A project that some request loads as is loaded, unchanged in every
field and to the last bit and sign of every size, from the request that holds its fields. -/
theorem load_request {fields : Fields} {project : Project Binary64}
    (h : Project.load fields = .ok project) : Project.load project.request = .ok project :=
  Loading.load_request_of_isSettled (Loading.isFrom_of_load h).isSettled

-- A negative zero, a size with an exponent, a size in other digits, a number as a colour and an
-- empty name.
def looseFields : Fields :=
  [("existingFrame", .text "timber"), ("installationCosts", .text "yes"),
    ("glazingType", .integer 7), ("frameColor", .real 0.1), ("quoteName", .text ""),
    ("rooms", .list [.object [("windows", .list
      [.object [("style", .bool true), ("width", .text " -0 "), ("height", .text "1e-7")],
        .object [("width", .text "٣.25"), ("height", .text "inf")]])]])]

def looseProject : Project Binary64 where
  frame := .timber
  glazing := "7"
  installation := true
  frameColour := some "0.1"
  quoteName := none
  rooms := [⟨"", [⟨"True", Binary64.zero true, 1e-7⟩, ⟨"", 3.25, 0⟩]⟩]

theorem load_request_looseProject :
    Project.load looseFields = .ok looseProject ∧
      Project.load looseProject.request = .ok looseProject := by
  have h : Project.load looseFields = .ok looseProject := by decide +kernel
  exact ⟨h, load_request h⟩

end Fenestration
