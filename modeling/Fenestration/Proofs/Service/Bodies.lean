import Fenestration.Proofs.Loading.Problems
import Fenestration.Service

/-!
# Bodies

A body is read as a request and the project is loaded from the fields of the request; a project can
also be loaded from the body itself.  The two ways differ in what they accept where a list is wanted
and in what stands for a field that is left out.  Main statements: `mem_inputs_readBody`, that a
body is rejected with exactly the values in it that are misplaced, and `agree_of_not_misshapen`,
that a body without such a value is read and gives one project either way.
-/

namespace Fenestration

namespace Service

open Json (Fields fieldOf fieldOr)

/-! ## Misplaced values -/

-- Where a list is wanted there may be null instead, but nothing else.
def NotItems (value : Json) : Prop :=
  value ≠ .null ∧ ∀ items, value ≠ .list items

def NotObject (value : Json) : Prop :=
  ∀ fields, value ≠ .object fields

theorem exists_object {value : Json} (h : ¬ NotObject value) :
    ∃ fields, value = .object fields := by
  unfold NotObject at h
  push Not at h
  exact h

/-- The value stands in the body where another kind of value is wanted: where the body, a list of
rooms, a room, a list of openings or an opening is wanted.  For a body that is left out stands
null. -/
inductive Misplaced : Option Json → Json → Prop
  | absent : Misplaced none .null
  | body {value : Json} (h : NotObject value) : Misplaced (some value) value
  | rooms {fields : Fields} {value : Json} (hrooms : fields.lookup "rooms" = some value)
      (h : NotItems value) : Misplaced (some (.object fields)) value
  | room {fields : Fields} {rooms : List Json} {room : Json}
      (hrooms : fields.lookup "rooms" = some (.list rooms)) (hroom : room ∈ rooms)
      (h : NotObject room) : Misplaced (some (.object fields)) room
  | openings {fields roomFields : Fields} {rooms : List Json} {value : Json}
      (hrooms : fields.lookup "rooms" = some (.list rooms)) (hroom : .object roomFields ∈ rooms)
      (hopenings : roomFields.lookup "windows" = some value) (h : NotItems value) :
      Misplaced (some (.object fields)) value
  | opening {fields roomFields : Fields} {rooms openings : List Json} {opening : Json}
      (hrooms : fields.lookup "rooms" = some (.list rooms)) (hroom : .object roomFields ∈ rooms)
      (hopenings : roomFields.lookup "windows" = some (.list openings))
      (hopening : opening ∈ openings) (h : NotObject opening) :
      Misplaced (some (.object fields)) opening

/-- The bodies that have the wrong shape. -/
def Misshapen (body : Option Json) : Prop :=
  ∃ value, Misplaced body value

/-! ## A body is rejected with what is misplaced in it -/

/-- The values that have a problem. -/
def Reading.inputs {β : Type} (reading : Reading β) : List Json :=
  reading.problems.map BodyProblem.input

section Inputs

variable {β γ : Type} {input : Json}

theorem inputs_map (f : β → γ) (reading : Reading β) :
    Reading.inputs (reading.map f) = reading.inputs := by
  cases reading <;> rfl

theorem inputs_under (step : Step) (reading : Reading β) :
    (reading.under step).inputs = reading.inputs := by
  cases reading with
  | ok value => rfl
  | error problems =>
    change (problems.map _).map BodyProblem.input = problems.map BodyProblem.input
    rw [List.map_map]
    rfl

theorem inputs_collect (parts : List (Reading β)) :
    Reading.inputs (Gathered.collect parts) = parts.flatMap Reading.inputs := by
  unfold Reading.inputs
  rw [Gathered.problems_collect, List.map_flatMap]

variable {read : Json → Reading β}

theorem mem_inputs_collect {values : List Json} :
    input ∈ Reading.inputs
        (Gathered.collect (values.mapIdx fun i value => (read value).under (.item i))) ↔
      ∃ value ∈ values, input ∈ (read value).inputs := by
  rw [inputs_collect, List.mem_flatMap]
  constructor
  · rintro ⟨_, hpart, hinput⟩
    obtain ⟨i, hi, rfl⟩ := List.mem_mapIdx.mp hpart
    rw [inputs_under] at hinput
    exact ⟨values[i], List.getElem_mem hi, hinput⟩
  · rintro ⟨value, hvalue, hinput⟩
    obtain ⟨i, hi, rfl⟩ := List.mem_iff_getElem.mp hvalue
    refine ⟨_, List.mem_mapIdx.mpr ⟨i, hi, rfl⟩, ?_⟩
    rw [inputs_under]
    exact hinput

theorem mem_inputs_readItems {value : Json} :
    input ∈ (readItems read value).inputs ↔
      NotItems value ∧ input = value ∨
        ∃ items, value = .list items ∧ ∃ item ∈ items, input ∈ (read item).inputs := by
  cases value with
  | null => simp [readItems, Reading.inputs, Gathered.problems, NotItems]
  | list items =>
    rw [readItems, inputs_map, mem_inputs_collect]
    simp [NotItems]
  | _ => simp [readItems, Reading.inputs, Gathered.problems, problemWith, NotItems]

-- A list that is left out has no problem.
theorem mem_inputs_readItems_fieldOf {fields : Fields} {name : String} :
    input ∈ (readItems read (fieldOf fields name)).inputs ↔
      fields.lookup name = some input ∧ NotItems input ∨
        ∃ items, fields.lookup name = some (.list items) ∧
          ∃ item ∈ items, input ∈ (read item).inputs := by
  rw [mem_inputs_readItems]
  cases hlookup : fields.lookup name with
  | none =>
    have hnull : fieldOf fields name = .null := by rw [fieldOf, fieldOr, hlookup, Option.getD_none]
    simp [hnull, NotItems]
  | some value =>
    rw [Json.fieldOf_of_lookup hlookup]
    simp only [Option.some.injEq]
    constructor
    · rintro (⟨hvalue, rfl⟩ | hitems)
      · exact .inl ⟨rfl, hvalue⟩
      · exact .inr hitems
    · rintro (⟨rfl, hvalue⟩ | hitems)
      · exact .inl ⟨hvalue, rfl⟩
      · exact .inr hitems

theorem mem_inputs_readOpening {value : Json} :
    input ∈ (readOpening value).inputs ↔ NotObject value ∧ input = value := by
  cases value <;> simp [readOpening, Reading.inputs, Gathered.problems, problemWith, NotObject]

theorem mem_inputs_readRoom {value : Json} :
    input ∈ (readRoom value).inputs ↔
      NotObject value ∧ input = value ∨
        ∃ fields, value = .object fields ∧
          input ∈ (readItems readOpening (fieldOf fields "windows")).inputs := by
  cases value with
  | object fields =>
    rw [readRoom, inputs_map, inputs_under]
    simp [NotObject]
  | _ => simp [readRoom, Reading.inputs, Gathered.problems, problemWith, NotObject]

theorem mem_inputs_readRequest {value : Json} :
    input ∈ (readRequest value).inputs ↔
      NotObject value ∧ input = value ∨
        ∃ fields, value = .object fields ∧
          input ∈ (readItems readRoom (fieldOf fields "rooms")).inputs := by
  cases value with
  | object fields =>
    rw [readRequest, inputs_map, inputs_under]
    simp [NotObject]
  | _ => simp [readRequest, Reading.inputs, Gathered.problems, problemWith, NotObject]

/-- The values that a body is rejected with are those that are misplaced in it. -/
theorem mem_inputs_readBody {body : Option Json} :
    input ∈ (readBody body).inputs ↔ Misplaced body input := by
  rw [readBody, inputs_under, mem_inputs_readRequest]
  constructor
  · cases body with
    | none =>
      rintro (⟨-, rfl⟩ | ⟨_, hnull, -⟩)
      · exact .absent
      · cases hnull
    | some value =>
      rintro (⟨hvalue, rfl⟩ | ⟨fields, hfields, hrooms⟩)
      · exact .body hvalue
      · obtain rfl : value = .object fields := hfields
        obtain ⟨hrooms, hitems⟩ | ⟨rooms, hrooms, room, hroom, hinput⟩ :=
          mem_inputs_readItems_fieldOf.mp hrooms
        · exact .rooms hrooms hitems
        · obtain ⟨hobject, rfl⟩ | ⟨roomFields, rfl, hopenings⟩ := mem_inputs_readRoom.mp hinput
          · exact .room hrooms hroom hobject
          · obtain ⟨hopenings, hitems⟩ | ⟨openings, hopenings, opening, hopening, hinput⟩ :=
              mem_inputs_readItems_fieldOf.mp hopenings
            · exact .openings hrooms hroom hopenings hitems
            · obtain ⟨hobject, rfl⟩ := mem_inputs_readOpening.mp hinput
              exact .opening hrooms hroom hopenings hopening hobject
  · intro h
    cases h with
    | absent =>
      refine .inl ⟨fun fields hnull => ?_, rfl⟩
      cases hnull
    | body hobject => exact .inl ⟨hobject, rfl⟩
    | rooms hrooms hitems =>
      exact .inr ⟨_, rfl, mem_inputs_readItems_fieldOf.mpr (.inl ⟨hrooms, hitems⟩)⟩
    | room hrooms hroom hobject =>
      refine .inr ⟨_, rfl, mem_inputs_readItems_fieldOf.mpr (.inr ⟨_, hrooms, _, hroom, ?_⟩)⟩
      exact mem_inputs_readRoom.mpr (.inl ⟨hobject, rfl⟩)
    | openings hrooms hroom hopenings hitems =>
      refine .inr ⟨_, rfl, mem_inputs_readItems_fieldOf.mpr (.inr ⟨_, hrooms, _, hroom, ?_⟩)⟩
      refine mem_inputs_readRoom.mpr (.inr ⟨_, rfl, ?_⟩)
      exact mem_inputs_readItems_fieldOf.mpr (.inl ⟨hopenings, hitems⟩)
    | opening hrooms hroom hopenings hopening hobject =>
      refine .inr ⟨_, rfl, mem_inputs_readItems_fieldOf.mpr (.inr ⟨_, hrooms, _, hroom, ?_⟩)⟩
      refine mem_inputs_readRoom.mpr (.inr ⟨_, rfl, ?_⟩)
      refine mem_inputs_readItems_fieldOf.mpr (.inr ⟨_, hopenings, _, hopening, ?_⟩)
      exact mem_inputs_readOpening.mpr ⟨hobject, rfl⟩

theorem fails_of_misshapen {body : Option Json} (h : Misshapen body) : Fails (readBody body) := by
  obtain ⟨value, hvalue⟩ := h
  obtain ⟨problem, hproblem, -⟩ := List.mem_map.mp (mem_inputs_readBody.mpr hvalue)
  exact Gathered.fails_of_mem_problems hproblem

end Inputs

/-! ## Any other body is read as the core loads it -/

/-- A value is read, it is loaded, and what it was read as is loaded as the same. -/
def Agree {β γ : Type} (read : Json → Reading β) (toJson : β → Json) (load : Json → Checked γ)
    (value : Json) : Prop :=
  ∃ asked loaded, read value = .ok asked ∧ load value = .ok loaded ∧
    load (toJson asked) = .ok loaded

section Agreement

variable {β γ : Type} {read : Json → Reading β} {toJson : β → Json} {load : Json → Checked γ}

theorem agree_list {values : List Json} (h : ∀ value ∈ values, Agree read toJson load value) :
    ∃ asked loaded,
      List.Forall₂ (fun value result => read value = .ok result) values asked ∧
      List.Forall₂ (fun value result => load value = .ok result) values loaded ∧
      List.Forall₂ (fun value result => load value = .ok result) (asked.map toJson) loaded := by
  induction values with
  | nil => exact ⟨[], [], .nil, .nil, .nil⟩
  | cons value rest ih =>
    obtain ⟨asked, loaded, hread, hload, hagain⟩ := h value List.mem_cons_self
    obtain ⟨askedRest, loadedRest, hreads, hloads, hagains⟩ :=
      ih fun item hitem => h item (List.mem_cons_of_mem value hitem)
    exact ⟨asked :: askedRest, loaded :: loadedRest, .cons hread hreads, .cons hload hloads,
      .cons hagain hagains⟩

theorem items_list {values : List Json} {results : List γ}
    (h : List.Forall₂ (fun value result => load value = .ok result) values results) :
    Loading.items load (.list values) = .ok results :=
  Gathered.collect_mapIdx (fun i value result hvalue => by rw [hvalue]; rfl) h

theorem readItems_list {values : List Json} {results : List β}
    (h : List.Forall₂ (fun value result => read value = .ok result) values results) :
    readItems read (.list values) = .ok (some results) := by
  have hcollect := Gathered.collect_mapIdx
    (g := fun i value => (read value).under (.item i))
    (fun i value result hvalue => by rw [hvalue]; rfl) h
  rw [readItems, hcollect]
  rfl

-- Readers that agree on the items agree on a list of them, and on one that is left out.
theorem agree_items {fields : Fields} {name : String}
    (hname : ∀ value, fields.lookup name = some value → ¬ NotItems value)
    (hitems : ∀ items, fields.lookup name = some (.list items) →
      ∀ item ∈ items, Agree read toJson load item) :
    Agree (readItems read) (listField toJson) (Loading.items load) (fieldOf fields name) := by
  cases hlookup : fields.lookup name with
  | none =>
    rw [fieldOf, fieldOr, hlookup]
    exact ⟨none, [], rfl, rfl, rfl⟩
  | some value =>
    rw [Json.fieldOf_of_lookup hlookup]
    by_cases hnull : value = .null
    · rw [hnull]
      exact ⟨none, [], rfl, rfl, rfl⟩
    · have hlist : ∃ items, value = .list items := by
        by_contra hnone
        exact hname value hlookup ⟨hnull, fun items heq => hnone ⟨items, heq⟩⟩
      obtain ⟨items, rfl⟩ := hlist
      obtain ⟨asked, loaded, hread, hload, hagain⟩ := agree_list (hitems items hlookup)
      exact ⟨some asked, loaded, readItems_list hread, items_list hload, items_list hagain⟩

end Agreement

-- Left out or empty, a text is the same.
theorem asTextOrEmpty_fieldOr (fields : Fields) (name : String) :
    (fieldOr fields name (.text "")).asTextOrEmpty = (fieldOf fields name).asTextOrEmpty := by
  rw [fieldOf, fieldOr, fieldOr]
  cases fields.lookup name with
  | none => rfl
  | some value => rfl

theorem agree_opening (fields : Fields) :
    Agree readOpening OpeningRequest.toJson Loading.opening (.object fields) := by
  refine ⟨_, _, rfl, rfl, ?_⟩
  rw [OpeningRequest.toJson, Loading.opening, Loading.openingOf, Loading.openingOf,
    ← asTextOrEmpty_fieldOr fields "style"]
  rfl

theorem agree_room {fields : Fields}
    (h : Agree (readItems readOpening) (listField OpeningRequest.toJson)
      (Loading.items Loading.opening) (fieldOf fields "windows")) :
    Agree readRoom RoomRequest.toJson Loading.room (.object fields) := by
  obtain ⟨asked, loaded, hread, hload, hagain⟩ := h
  refine ⟨⟨fieldOr fields "name" (.text ""), asked⟩,
    ⟨(fieldOf fields "name").asTextOrEmpty, loaded⟩, ?_, ?_, ?_⟩
  · rw [readRoom, hread]
    rfl
  · rw [Loading.room, hload]
    rfl
  · have hwindows : fieldOf [("name", fieldOr fields "name" (.text "")),
        ("windows", listField OpeningRequest.toJson asked)] "windows" =
        listField OpeningRequest.toJson asked := rfl
    rw [RoomRequest.toJson, Loading.room, hwindows, hagain,
      ← asTextOrEmpty_fieldOr fields "name"]
    rfl

/-- A body that is not misshapen is an object; it is read, and the project is the same whether it
is loaded from the request or from the body. -/
theorem agree_of_not_misshapen {body : Option Json} (h : ¬ Misshapen body) :
    ∃ fields request project, body = some (.object fields) ∧ readBody body = .ok request ∧
      Project.load fields = .ok project ∧ Project.load request.fields = .ok project := by
  cases body with
  | none => exact absurd ⟨.null, .absent⟩ h
  | some value =>
    obtain ⟨fields, rfl⟩ := exists_object fun hvalue => h ⟨value, .body hvalue⟩
    have hrooms : Agree (readItems readRoom) (listField RoomRequest.toJson)
        (Loading.items Loading.room) (fieldOf fields "rooms") := by
      refine agree_items (fun value hrooms hitems => h ⟨value, .rooms hrooms hitems⟩)
        fun rooms hrooms room hroom => ?_
      obtain ⟨roomFields, rfl⟩ := exists_object fun hobject => h ⟨room, .room hrooms hroom hobject⟩
      refine agree_room (agree_items
        (fun value hopenings hitems => h ⟨value, .openings hrooms hroom hopenings hitems⟩)
        fun openings hopenings opening hopening => ?_)
      obtain ⟨openingFields, rfl⟩ := exists_object fun hobject =>
        h ⟨opening, .opening hrooms hroom hopenings hopening hobject⟩
      exact agree_opening openingFields
    obtain ⟨asked, loaded, hread, hload, hagain⟩ := hrooms
    let request : QuoteRequest :=
      { quoteName := fieldOf fields "quoteName"
        existingFrame := fieldOf fields "existingFrame"
        glazingType := fieldOf fields "glazingType"
        installationCosts := fieldOf fields "installationCosts"
        frameColour := fieldOf fields "frameColor"
        rooms := asked }
    have hroomsField : fieldOf request.fields "rooms" = listField RoomRequest.toJson asked := rfl
    refine ⟨fields, request, Loading.projectOf fields loaded, rfl, ?_, ?_, ?_⟩
    · rw [readBody, Option.getD_some, readRequest, hread]
      rfl
    · rw [Project.load, hload]
      rfl
    · rw [Project.load, hroomsField, hagain]
      rfl

end Service

end Fenestration
