import Fenestration.Proofs.Loading.Problems

/-!
# What loads and what does not

A body is an object, and a path leads to each value in it.  Values are out of place where rooms and
openings are wanted and nothing like them stands.  Main statements: `reports_load`, that loading
reports exactly the values out of place, each at its path, and `isFrom_of_load`, that a project that
loads has a room for each room of the body and an opening for each opening, measured by finite sizes
(`IsFrom.isMeasured`).
-/

namespace Fenestration

open Json (Fields fieldOf)

/-! ## Values out of place -/

/-- The value that a path leads to. -/
def Json.at? : Json → List Step → Option Json
  | value, [] => some value
  | .object fields, .field name :: path => (fields.lookup name).bind fun value => value.at? path
  | .list items, .item i :: path => items[i]?.bind fun item => item.at? path
  | _, _ :: _ => none

theorem Json.exists_of_at?_field {value found : Json} {name : String} {path : List Step}
    (h : value.at? (.field name :: path) = some found) :
    ∃ fields inner, value = .object fields ∧ fields.lookup name = some inner ∧
      inner.at? path = some found := by
  cases value with
  | object fields =>
    obtain ⟨inner, hlookup, hinner⟩ := Option.bind_eq_some_iff.mp h
    exact ⟨fields, inner, rfl, hlookup, hinner⟩
  | _ => cases h

theorem Json.exists_of_at?_item {value found : Json} {i : Nat} {path : List Step}
    (h : value.at? (.item i :: path) = some found) :
    ∃ items item, value = .list items ∧ items[i]? = some item ∧ item.at? path = some found := by
  cases value with
  | list items =>
    obtain ⟨item, hitem, hfound⟩ := Option.bind_eq_some_iff.mp h
    exact ⟨items, item, rfl, hitem, hfound⟩
  | _ => cases h

/-- The four places where a value of a certain form is wanted, and what is out of place there: where
a list is wanted, a value that is neither a list nor void, and where an object is wanted, any other
value. -/
inductive Misplaced : List Step → Fault → Json → Prop
  | rooms {value : Json} (hvoid : value.isVoid = false) (hlist : ∀ items, value ≠ .list items) :
      Misplaced [.field "rooms"] .notList value
  | room (i : Nat) {value : Json} (hobject : ∀ fields, value ≠ .object fields) :
      Misplaced [.field "rooms", .item i] (.notForm .room) value
  | windows (i : Nat) {value : Json} (hvoid : value.isVoid = false)
      (hlist : ∀ items, value ≠ .list items) :
      Misplaced [.field "rooms", .item i, .field "windows"] .notList value
  | window (i j : Nat) {value : Json} (hobject : ∀ fields, value ≠ .object fields) :
      Misplaced [.field "rooms", .item i, .field "windows", .item j] (.notForm .opening) value

/-- The path of the problem leads to a value that is out of place there. -/
def Offends (body : Json) (problem : Problem) : Prop :=
  ∃ value, body.at? problem.path = some value ∧ Misplaced problem.path problem.fault value

theorem lookup_of_not_isVoid {fields : Fields} {name : String}
    (h : (fieldOf fields name).isVoid = false) :
    fields.lookup name = some (fieldOf fields name) := by
  apply Json.lookup_of_fieldOf_ne_null
  intro hnull
  rw [hnull] at h
  cases h

theorem lookup_of_fieldOf_eq_list {fields : Fields} {name : String} {items : List Json}
    (h : fieldOf fields name = .list items) : fields.lookup name = some (.list items) := by
  have hne : fieldOf fields name ≠ .null := by simp [h]
  rw [Json.lookup_of_fieldOf_ne_null hne, h]

/-! ## What loading reports -/

namespace Loading

open Checked (Reports BadItems)

inductive BadOpening (value : Json) : Problem → Prop
  | notObject (hobject : ∀ fields, value ≠ .object fields) :
      BadOpening value ⟨[], .notForm .opening⟩

inductive BadRoom (value : Json) : Problem → Prop
  | notObject (hobject : ∀ fields, value ≠ .object fields) : BadRoom value ⟨[], .notForm .room⟩
  | windows {fields : Fields} {problem : Problem} (hvalue : value = .object fields)
      (h : BadItems BadOpening (fieldOf fields "windows") problem) :
      BadRoom value (problem.under (.field "windows"))

theorem reports_opening (value : Json) : Reports (opening value) (BadOpening value) := by
  by_cases hobject : ∃ fields, value = .object fields
  · obtain ⟨fields, rfl⟩ := hobject
    refine Checked.reports_ok (openingOf fields) ?_
    rintro problem ⟨hnone⟩
    exact hnone fields rfl
  · have hopening : opening value = .error [⟨[], .notForm .opening⟩] := by
      cases value with
      | object fields => exact absurd ⟨fields, rfl⟩ hobject
      | _ => rfl
    rw [hopening]
    refine (Checked.reports_error _).congr fun problem => ⟨?_, ?_⟩
    · rintro rfl
      exact .notObject fun fields h => hobject ⟨fields, h⟩
    · rintro ⟨_⟩
      rfl

theorem reports_room (value : Json) : Reports (room value) (BadRoom value) := by
  by_cases hobject : ∃ fields, value = .object fields
  · obtain ⟨fields, rfl⟩ := hobject
    have hwindows := (Reports.items reports_opening (fieldOf fields "windows")).under
      (.field "windows")
    refine (hwindows.map _).congr fun problem => ⟨?_, ?_⟩
    · rintro ⟨inner, hbad, rfl⟩
      exact .windows rfl hbad
    · rintro (hnone | ⟨hvalue, hbad⟩)
      · exact absurd rfl (hnone fields)
      · cases hvalue
        exact ⟨_, hbad, rfl⟩
  · have hroom : room value = .error [⟨[], .notForm .room⟩] := by
      cases value with
      | object fields => exact absurd ⟨fields, rfl⟩ hobject
      | _ => rfl
    rw [hroom]
    refine (Checked.reports_error _).congr fun problem => ⟨?_, ?_⟩
    · rintro rfl
      exact .notObject fun fields h => hobject ⟨fields, h⟩
    · rintro (_ | ⟨hvalue, _⟩)
      · rfl
      · exact absurd ⟨_, hvalue⟩ hobject

-- What is wrong with the rooms and their openings, said by paths from the body.
theorem badItems_iff_offends {fields : Fields} {problem : Problem} :
    (∃ inner, BadItems BadRoom (fieldOf fields "rooms") inner ∧
      inner.under (.field "rooms") = problem) ↔ Offends (.object fields) problem := by
  constructor
  · rintro ⟨inner, hbad, rfl⟩
    rcases hbad with ⟨hvoid, hlist⟩ | ⟨hrooms, hroom, hbad⟩
    · exact ⟨_, by simp [Problem.under, Json.at?, lookup_of_not_isVoid hvoid], .rooms hvoid hlist⟩
    · have hlookup := lookup_of_fieldOf_eq_list hrooms
      rcases hbad with hobject | ⟨rfl, hbad⟩
      · exact ⟨_, by simp [Problem.under, Json.at?, hlookup, hroom], .room _ hobject⟩
      · rcases hbad with ⟨hvoid, hlist⟩ | ⟨hwindows, hwindow, ⟨hobject⟩⟩
        · exact ⟨_, by simp [Problem.under, Json.at?, hlookup, hroom, lookup_of_not_isVoid hvoid],
            .windows _ hvoid hlist⟩
        · exact ⟨_, by simp [Problem.under, Json.at?, hlookup, hroom,
              lookup_of_fieldOf_eq_list hwindows, hwindow], .window _ _ hobject⟩
  · obtain ⟨path, fault⟩ := problem
    rintro ⟨value, hat, hmisplaced⟩
    cases hmisplaced with
    | rooms hvoid hlist =>
      obtain ⟨_, _, ⟨⟩, hlookup, ⟨⟩⟩ := Json.exists_of_at?_field hat
      rw [← Json.fieldOf_of_lookup hlookup] at hvoid hlist
      exact ⟨_, .notList hvoid hlist, rfl⟩
    | room i hobject =>
      obtain ⟨_, _, ⟨⟩, hlookup, hat⟩ := Json.exists_of_at?_field hat
      obtain ⟨_, _, rfl, hroom, ⟨⟩⟩ := Json.exists_of_at?_item hat
      have hrooms := Json.fieldOf_of_lookup hlookup
      exact ⟨_, .item hrooms hroom (.notObject hobject), rfl⟩
    | windows i hvoid hlist =>
      obtain ⟨_, _, ⟨⟩, hlookup, hat⟩ := Json.exists_of_at?_field hat
      obtain ⟨_, _, rfl, hroom, hat⟩ := Json.exists_of_at?_item hat
      obtain ⟨roomFields, _, rfl, hwindows, ⟨⟩⟩ := Json.exists_of_at?_field hat
      rw [← Json.fieldOf_of_lookup hwindows] at hvoid hlist
      have hrooms := Json.fieldOf_of_lookup hlookup
      exact ⟨_, .item hrooms hroom (.windows rfl (.notList hvoid hlist)), rfl⟩
    | window i j hobject =>
      obtain ⟨_, _, ⟨⟩, hlookup, hat⟩ := Json.exists_of_at?_field hat
      obtain ⟨_, _, rfl, hroom, hat⟩ := Json.exists_of_at?_item hat
      obtain ⟨roomFields, _, rfl, hlookupWindows, hat⟩ := Json.exists_of_at?_field hat
      obtain ⟨_, _, rfl, hwindow, ⟨⟩⟩ := Json.exists_of_at?_item hat
      have hrooms := Json.fieldOf_of_lookup hlookup
      have hwindows := Json.fieldOf_of_lookup hlookupWindows
      have hbad : BadRoom _ _ := .windows rfl (.item hwindows hwindow (.notObject hobject))
      exact ⟨_, .item hrooms hroom hbad, rfl⟩

theorem reports_load (fields : Fields) :
    Reports (Project.load fields) (Offends (.object fields)) := by
  have hrooms := (Reports.items reports_room (fieldOf fields "rooms")).under (.field "rooms")
  exact (hrooms.map (projectOf fields)).congr fun _ => badItems_iff_offends

/-! ## What loading yields -/

-- The items that a value stands for: those of a list, and none otherwise.
def listed : Json → List Json
  | .list items => items
  | _ => []

def OpeningFrom (value : Json) (opening : Opening Binary64) : Prop :=
  ∃ fields, value = .object fields ∧ opening = openingOf fields

def RoomFrom (value : Json) (room : Room Binary64) : Prop :=
  ∃ fields, value = .object fields ∧ room.name = (fieldOf fields "name").asTextOrEmpty ∧
    List.Forall₂ OpeningFrom (listed (fieldOf fields "windows")) room.openings

/-- The project has the rooms of the body, one for one and in order, each with the openings of its
value, and all else from the fields of the body. -/
structure IsFrom (project : Project Binary64) (fields : Fields) : Prop where
  choices : project = projectOf fields project.rooms
  rooms : List.Forall₂ RoomFrom (listed (fieldOf fields "rooms")) project.rooms

theorem forall₂_of_items {β : Type} {load : Json → Checked β} {value : Json} {results : List β}
    (h : items load value = .ok results) :
    List.Forall₂ (fun value result => load value = .ok result) (listed value) results := by
  by_cases hlist : ∃ values, value = .list values
  · obtain ⟨values, rfl⟩ := hlist
    refine Gathered.forall₂_of_collect_mapIdx (fun i value result hunder => ?_) h
    cases hvalue : load value with
    | ok loaded =>
      rw [hvalue] at hunder
      exact hunder
    | error problems =>
      rw [hvalue] at hunder
      cases hunder
  · have hlisted : listed value = [] := by
      cases value with
      | list values => exact absurd ⟨values, rfl⟩ hlist
      | _ => rfl
    rw [Checked.items_of_not_list hlist] at h
    split at h
    · cases h
      rw [hlisted]
      exact .nil
    · cases h

-- And back: a list is loaded if each of its items is.
theorem items_of_forall₂ {β : Type} {load : Json → Checked β} {values : List Json}
    {results : List β} (h : List.Forall₂ (fun value result => load value = .ok result) values
      results) : items load (.list values) = .ok results := by
  refine Gathered.collect_mapIdx (fun i value result hvalue => ?_) h
  rw [hvalue]
  rfl

theorem openingFrom_of_opening {value : Json} {loaded : Opening Binary64}
    (h : opening value = .ok loaded) : OpeningFrom value loaded := by
  cases value with
  | object fields =>
    cases h
    exact ⟨fields, rfl, rfl⟩
  | _ => cases h

theorem roomFrom_of_room {value : Json} {loaded : Room Binary64} (h : room value = .ok loaded) :
    RoomFrom value loaded := by
  cases value with
  | object fields =>
    rw [room] at h
    cases hopenings : items opening (fieldOf fields "windows") with
    | ok openings =>
      rw [hopenings] at h
      cases h
      refine ⟨fields, rfl, rfl, ?_⟩
      exact (forall₂_of_items hopenings).imp fun _ _ => openingFrom_of_opening
    | error problems =>
      rw [hopenings] at h
      cases h
  | _ => cases h

theorem isFrom_of_load {fields : Fields} {project : Project Binary64}
    (h : Project.load fields = .ok project) : IsFrom project fields := by
  rw [Project.load] at h
  cases hrooms : items room (fieldOf fields "rooms") with
  | ok rooms =>
    rw [hrooms] at h
    cases h
    exact ⟨rfl, (forall₂_of_items hrooms).imp fun _ _ => roomFrom_of_room⟩
  | error problems =>
    rw [hrooms] at h
    cases h

end Loading

/-! ## Measured sizes -/

theorem Measure.usable_isFinite (x : Binary64) : (usable x).isFinite = true := by
  rw [usable]
  split
  · assumption
  · rfl

theorem Measure.ofText_isFinite (cs : List Char) : (ofText cs).isFinite = true := by
  rw [ofText]
  split
  · exact usable_isFinite _
  · rfl

theorem Measure.ofJson_isFinite (value : Json) : (ofJson value).isFinite = true := by
  unfold ofJson
  split
  · rfl
  · rfl
  · exact ofText_isFinite _

/-- Every opening of the project is measured by finite sizes. -/
def Project.IsMeasured (project : Project Binary64) : Prop :=
  ∀ room ∈ project.rooms, ∀ opening ∈ room.openings,
    opening.width.isFinite = true ∧ opening.height.isFinite = true

theorem forall_mem_of_forall₂ {β γ : Type} {R : β → γ → Prop} {P : γ → Prop}
    (hP : ∀ value result, R value result → P result) {values : List β} {results : List γ}
    (h : List.Forall₂ R values results) : ∀ result ∈ results, P result := by
  induction h with
  | nil => simp
  | cons hvalue _ ih => exact List.forall_mem_cons.mpr ⟨hP _ _ hvalue, ih⟩

theorem Loading.IsFrom.isMeasured {project : Project Binary64} {fields : Fields}
    (h : IsFrom project fields) : project.IsMeasured := by
  refine forall_mem_of_forall₂ (fun value room hroom => ?_) h.rooms
  obtain ⟨roomFields, -, -, hopenings⟩ := hroom
  refine forall_mem_of_forall₂ (fun value opening hopening => ?_) hopenings
  obtain ⟨openingFields, -, rfl⟩ := hopening
  exact ⟨Measure.ofJson_isFinite _, Measure.ofJson_isFinite _⟩

end Fenestration
