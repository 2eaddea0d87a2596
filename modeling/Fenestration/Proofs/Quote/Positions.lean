import Fenestration.Proofs.Numbered
import Fenestration.Proofs.Quote.QuotedOpenings
import Mathlib.Data.List.Forall2
import Mathlib.Data.List.Nodup

/-!
# Positions in a project

An opening stands at a position: a room, and a place in that room, both counted from zero.  A work
order says neither; it has the name of the room, which other rooms may share, and a number.  Here
the entries of a project are listed with their positions (`Project.places`), so that what is made of
quoted entries can be traced back to where these stand.  Main statement: the jobs of a work order
belong to the positions of the quoted openings, each once and in order
(`workOrder_lists_quoted_openings`).
-/

namespace Fenestration

/-- Where an opening stands: its room in the project and its place in the room, from zero. -/
@[ext]
structure Position where
  room : Nat
  opening : Nat
  deriving DecidableEq

-- Room by room, and within a room one opening after the other.
def Position.Precedes (a b : Position) : Prop :=
  a.room < b.room ∨ a.room = b.room ∧ a.opening < b.opening

variable {α : Type}

/-- At the position stands the opening, and it is in the room. -/
structure Project.Holds (project : Project α) (position : Position) (room : Room α)
    (opening : Opening α) : Prop where
  room_at : project.rooms[position.room]? = some room
  opening_at : room.openings[position.opening]? = some opening

/-! ## Entries with their positions -/

def Room.places (room : Room α) (index : Nat) : List (Position × Entry α) :=
  room.openings.zipIdx.map fun (opening, place) =>
    (⟨index, place⟩, ⟨room.name, place + 1, opening⟩)

def Project.places (project : Project α) : List (Position × Entry α) :=
  project.rooms.zipIdx.flatMap fun (room, index) => room.places index

theorem Room.map_snd_places (room : Room α) (index : Nat) :
    (room.places index).map Prod.snd = room.entries := by
  have hnumbers : room.openings.zipIdx 1 =
      room.openings.zipIdx.map fun (opening, place) => (opening, place + 1) :=
    List.zipIdx_succ
  unfold places entries
  rw [hnumbers, List.map_map, List.map_map]
  rfl

theorem Project.map_snd_places (project : Project α) :
    project.places.map Prod.snd = project.entries := by
  unfold places entries
  rw [List.map_flatMap]
  simp only [Room.map_snd_places]
  rw [← List.flatMap_map, List.zipIdx_map_fst]

theorem Room.mem_places_iff {room : Room α} {index : Nat} {position : Position} {entry : Entry α} :
    (position, entry) ∈ room.places index ↔
      position.room = index ∧ ∃ opening, room.openings[position.opening]? = some opening ∧
        entry = ⟨room.name, position.opening + 1, opening⟩ := by
  unfold places
  rw [List.mem_map]
  constructor
  · rintro ⟨⟨opening, place⟩, hmem, heq⟩
    cases heq
    exact ⟨rfl, opening, List.mem_zipIdx_iff_getElem?.mp hmem, rfl⟩
  · rintro ⟨rfl, opening, hopening, rfl⟩
    exact ⟨(opening, position.opening), List.mem_zipIdx_iff_getElem?.mpr hopening, rfl⟩

theorem Project.mem_places_iff {project : Project α} {position : Position} {entry : Entry α} :
    (position, entry) ∈ project.places ↔
      ∃ room opening, project.Holds position room opening ∧
        entry = ⟨room.name, position.opening + 1, opening⟩ := by
  unfold places
  rw [List.mem_flatMap]
  constructor
  · rintro ⟨⟨room, index⟩, hmem, hplace⟩
    obtain ⟨rfl, opening, hopening, rfl⟩ := Room.mem_places_iff.mp hplace
    exact ⟨room, opening, ⟨List.mem_zipIdx_iff_getElem?.mp hmem, hopening⟩, rfl⟩
  · rintro ⟨room, opening, hholds, rfl⟩
    refine ⟨(room, position.room), List.mem_zipIdx_iff_getElem?.mpr hholds.room_at, ?_⟩
    exact Room.mem_places_iff.mpr ⟨rfl, opening, hholds.opening_at, rfl⟩

theorem Room.pairwise_places (room : Room α) (index : Nat) :
    (room.places index).Pairwise fun a b => a.1.Precedes b.1 := by
  unfold places
  rw [List.pairwise_map]
  exact (pairwise_lt_zipIdx room.openings 0).imp fun hlt => .inr ⟨rfl, hlt⟩

theorem Project.pairwise_places (project : Project α) :
    project.places.Pairwise fun a b => a.1.Precedes b.1 := by
  unfold places
  rw [List.pairwise_flatMap]
  refine ⟨fun (room, index) _ => room.pairwise_places index, ?_⟩
  refine (pairwise_lt_zipIdx project.rooms 0).imp fun {a b} hlt x hx y hy => ?_
  have hroom := (Room.mem_places_iff.mp hx).1
  have hother := (Room.mem_places_iff.mp hy).1
  exact .inl (by omega)

-- Rooms that are told apart by their names are found by their names.
theorem Project.Holds.room_eq {project : Project α} (hnames : (project.rooms.map Room.name).Nodup)
    {p q : Position} {room other : Room α} {a b : Opening α} (ha : project.Holds p room a)
    (hb : project.Holds q other b) (hname : room.name = other.name) : p.room = q.room := by
  have hp : (project.rooms.map Room.name)[p.room]? = some room.name := by
    rw [List.getElem?_map, ha.room_at, Option.map_some]
  have hq : (project.rooms.map Room.name)[q.room]? = some room.name := by
    rw [List.getElem?_map, hb.room_at, Option.map_some, hname]
  have hlt : p.room < (project.rooms.map Room.name).length := (List.getElem?_eq_some_iff.mp hp).1
  exact (List.getElem?_inj hlt hnames).mp (hp.trans hq.symm)

/-! ## Quoted positions -/

variable [NatCast α] [Sub α] [LE α] [DecidableLE α]

def Project.quotedPlaces (project : Project α) (timberDeduction : α) : List (Position × Entry α) :=
  project.places.filter fun place =>
    place.2.opening.IsQuoted (project.frame.deduction timberDeduction)

def Project.quotedPositions (project : Project α) (timberDeduction : α) : List Position :=
  (project.quotedPlaces timberDeduction).map Prod.fst

theorem Project.map_snd_quotedPlaces (project : Project α) (timberDeduction : α) :
    (project.quotedPlaces timberDeduction).map Prod.snd =
      project.quotedEntries timberDeduction := by
  unfold quotedEntries
  rw [← map_snd_places, List.filter_map]
  rfl

theorem Project.pairwise_quotedPlaces (project : Project α) (timberDeduction : α) :
    (project.quotedPlaces timberDeduction).Pairwise fun a b => a.1.Precedes b.1 :=
  project.pairwise_places.filter _

theorem Project.mem_quotedPlaces_iff {project : Project α} {timberDeduction : α}
    {position : Position} {entry : Entry α} :
    (position, entry) ∈ project.quotedPlaces timberDeduction ↔
      ∃ room opening, project.Holds position room opening ∧
        entry = ⟨room.name, position.opening + 1, opening⟩ ∧
        opening.IsQuoted (project.frame.deduction timberDeduction) := by
  unfold quotedPlaces
  rw [List.mem_filter, mem_places_iff, decide_eq_true_eq]
  constructor
  · rintro ⟨⟨room, opening, hholds, rfl⟩, hquoted⟩
    exact ⟨room, opening, hholds, rfl, hquoted⟩
  · rintro ⟨room, opening, hholds, rfl, hquoted⟩
    exact ⟨⟨room, opening, hholds, rfl⟩, hquoted⟩

theorem Project.pairwise_quotedPositions (project : Project α) (timberDeduction : α) :
    (project.quotedPositions timberDeduction).Pairwise Position.Precedes := by
  unfold quotedPositions
  rw [List.pairwise_map]
  exact project.pairwise_quotedPlaces timberDeduction

theorem Project.mem_quotedPositions_iff {project : Project α} {timberDeduction : α}
    {position : Position} :
    position ∈ project.quotedPositions timberDeduction ↔
      ∃ room opening, project.Holds position room opening ∧
        opening.IsQuoted (project.frame.deduction timberDeduction) := by
  unfold quotedPositions
  rw [List.mem_map]
  constructor
  · rintro ⟨⟨_, entry⟩, hmem, rfl⟩
    obtain ⟨room, opening, hholds, -, hquoted⟩ := mem_quotedPlaces_iff.mp hmem
    exact ⟨room, opening, hholds, hquoted⟩
  · rintro ⟨room, opening, hholds, hquoted⟩
    exact ⟨(position, _), mem_quotedPlaces_iff.mpr ⟨room, opening, hholds, rfl, hquoted⟩, rfl⟩

/-! ## Jobs at their positions -/

variable [Div α]

/-- The job is that of the opening at the position: it has the name of the room and the number of
the opening in it, and all else is worked out from the opening as it is. -/
structure Project.IsJobAt (project : Project α) (deduction : α) (position : Position)
    (job : Job α) : Prop where
  place : ∃ room, project.Holds position room job.opening ∧ job.room = room.name
  number : job.number = position.opening + 1
  cut : job.cut = job.opening.cutSize deduction
  cuttingList : job.cuttingList = (Layout.ofCode job.opening.style).cuttingList job.cut
  glassSchedule : job.glassSchedule =
    (Layout.ofCode job.opening.style).glassSchedule job.cut project.glazing

theorem Project.workOrder_eq_map_quotedPlaces (project : Project α) (timberDeduction : α) :
    project.workOrder timberDeduction =
      (project.quotedPlaces timberDeduction).map fun place =>
        place.2.job project.glazing
          (place.2.opening.cutSize (project.frame.deduction timberDeduction)) := by
  rw [workOrder_eq_map, ← map_snd_quotedPlaces, List.map_map]
  rfl

theorem Project.forall₂_isJobAt (project : Project α) (timberDeduction : α) :
    List.Forall₂ (project.IsJobAt (project.frame.deduction timberDeduction))
      (project.quotedPositions timberDeduction) (project.workOrder timberDeduction) := by
  unfold quotedPositions
  rw [workOrder_eq_map_quotedPlaces, List.forall₂_map_left_iff, List.forall₂_map_right_iff,
    List.forall₂_same]
  intro (position, entry) hmem
  obtain ⟨room, opening, hholds, rfl, -⟩ := mem_quotedPlaces_iff.mp hmem
  exact ⟨⟨room, hholds, rfl⟩, rfl, rfl, rfl, rfl⟩

theorem Project.nodup_labels (project : Project α) (timberDeduction : α)
    (hnames : (project.rooms.map Room.name).Nodup) :
    ((project.workOrder timberDeduction).map fun job => (job.room, job.number)).Nodup := by
  rw [workOrder_eq_map_quotedPlaces, List.map_map]
  unfold List.Nodup
  rw [List.pairwise_map]
  -- Of two places with one name and one number neither can precede the other.
  refine (project.pairwise_quotedPlaces timberDeduction).imp_of_mem ?_
  intro (p, entry) (q, other) hp hq hprec hsame
  obtain ⟨room, a, ha, rfl, -⟩ := mem_quotedPlaces_iff.mp hp
  obtain ⟨_, b, hb, rfl, -⟩ := mem_quotedPlaces_iff.mp hq
  obtain ⟨hname, hnumber⟩ := Prod.mk.inj hsame
  have hroom : p.room = q.room := ha.room_eq hnames hb hname
  have hopening : p.opening + 1 = q.opening + 1 := hnumber
  have hlex : p.room < q.room ∨ p.room = q.room ∧ p.opening < q.opening := hprec
  omega

/-- **A work order lists the quoted openings.**  There is one list of positions, strictly in order,
that has exactly the positions at which nothing excludes the opening, and the jobs of the work order
belong to it one by one.  Jobs of rooms with different names never share both name and number. -/
theorem workOrder_lists_quoted_openings (project : Project α) (pricing : Pricing α) :
    (∃ positions : List Position,
      positions.Pairwise Position.Precedes ∧
      (∀ position, position ∈ positions ↔
        ∃ room opening, project.Holds position room opening ∧
          opening.exclusion? (opening.cutSize (project.deduction pricing)) = none) ∧
      List.Forall₂ (project.IsJobAt (project.deduction pricing)) positions
        (project.workOrder pricing.timberDeduction)) ∧
    ((project.rooms.map Room.name).Nodup →
      ((project.workOrder pricing.timberDeduction).map fun job =>
        (job.room, job.number)).Nodup) := by
  refine ⟨⟨project.quotedPositions pricing.timberDeduction, ?_, fun position => ?_, ?_⟩, ?_⟩
  · exact project.pairwise_quotedPositions _
  · exact Project.mem_quotedPositions_iff
  · exact project.forall₂_isJobAt _
  · exact project.nodup_labels _

-- The timber frame consumes the first opening of the kitchen, and one of the bath has no height.
def Project.withGaps : Project Binary64 where
  frame := .timber
  glazing := Glazing.single.key
  installation := false
  frameColour := none
  quoteName := none
  rooms :=
    [⟨"Kitchen", [⟨"F", 2000, 50⟩, ⟨"A-F", 1200, 900⟩]⟩,
      ⟨"Bath", [⟨"S", 600, 600⟩, ⟨"S", 600, 0⟩, ⟨"F/F", 700, 700⟩]⟩]

theorem workOrder_lists_withGaps :
    (Project.withGaps.rooms.map Room.name).Nodup ∧
      ((Project.withGaps.workOrder 60).map fun job => (job.room, job.number)) =
        [("Kitchen", 2), ("Bath", 1), ("Bath", 3)] ∧
      ((Project.withGaps.workOrder 60).map fun job => (job.room, job.number)).Nodup := by
  have hnames : (Project.withGaps.rooms.map Room.name).Nodup := by decide
  refine ⟨hnames, by decide +kernel, ?_⟩
  exact (workOrder_lists_quoted_openings Project.withGaps .standard).2 hnames

end Fenestration
