import Fenestration.Proofs.Loading.Shapes
import Fenestration.Proofs.Safety.Attempt

/-!
# Loaded projects are safe

Loading is the only step that can refuse a request of an object, and it refuses only values that are
out of place.  Whatever it lets through is measured by finite sizes, so that no later computation
asks an operation for what it cannot do.  Main statement: `load_rejects_or_succeeds`.
-/

namespace Fenestration

open Json (Fields)

theorem Project.namedDocument_name (project : Project Binary64) (pricing : Pricing Binary64)
    (kind : DocumentKind) :
    project.namedDocument pricing kind.name = .ok (project.document pricing kind) := by
  have hkind : DocumentKind.ofName? kind.name = some kind := by cases kind <;> decide
  rw [namedDocument, hkind]

/-- Every computation on the project succeeds, with the value that the library computes. -/
structure Project.IsSafe (project : Project Binary64) : Prop where
  estimate (pricing : Pricing Binary64) :
    Attempt.estimate project pricing = .ok (project.estimate pricing)
  workOrder (pricing : Pricing Binary64) :
    Attempt.workOrder project pricing.timberDeduction =
      .ok (project.workOrder pricing.timberDeduction)
  scheduleRows : ∀ room ∈ project.rooms, Attempt.scheduleRows room = .ok room.scheduleRows
  document (pricing : Pricing Binary64) (kind : DocumentKind) :
    Attempt.document project pricing kind = .ok (project.document pricing kind)
  namedDocument (pricing : Pricing Binary64) (kind : DocumentKind) :
    project.namedDocument pricing kind.name = .ok (project.document pricing kind)

theorem Project.IsMeasured.isSafe {project : Project Binary64} (h : project.IsMeasured) :
    project.IsSafe := by
  have hrows : ∀ room ∈ project.rooms, Attempt.scheduleRows room = .ok room.scheduleRows :=
    fun room hroom => Attempt.scheduleRows_of_isFinite (h room hroom)
  exact
    { estimate := fun pricing => Attempt.estimate_eq_ok project pricing
      workOrder := fun pricing => Attempt.workOrder_eq_ok project pricing.timberDeduction
      scheduleRows := hrows
      document := fun pricing kind => Attempt.document_eq_ok hrows pricing kind
      namedDocument := project.namedDocument_name }

/-- **Loading refuses misplaced values and nothing else can fail.**  The fields of a request are
refused if and only if some value in them is out of place, and then the problems are exactly these
values by their paths, each once, depth first.  Otherwise the project has the rooms and the openings
of the request, one for one and in order, its sizes are finite, and every computation on it
succeeds, whatever the pricing. -/
theorem load_rejects_or_succeeds (fields : Fields) :
    (Fails ((Project.load fields).asForm .project) ↔ ∃ problem, Offends (.object fields) problem) ∧
    (∀ refusal, (Project.load fields).asForm .project = .error refusal →
      ∃ problems, refusal = .invalid .project problems ∧
        (∀ problem, problem ∈ problems ↔ Offends (.object fields) problem) ∧
        problems.Nodup ∧ problems.Pairwise Problem.Precedes) ∧
    (∀ project, (Project.load fields).asForm .project = .ok project →
      Loading.IsFrom project fields ∧ project.IsMeasured ∧ project.IsSafe) := by
  have hreports := Loading.reports_load fields
  rw [← hreports.fails_iff]
  cases hload : Project.load fields with
  | error problems =>
    rw [hload] at hreports
    refine ⟨iff_of_true ⟨_, rfl⟩ ⟨_, rfl⟩, ?_, ?_⟩
    · rintro _ ⟨⟩
      exact ⟨problems, rfl, hreports.mem_iff, hreports.nodup, hreports.sorted⟩
    · rintro _ ⟨⟩
  | ok project =>
    have hfrom := Loading.isFrom_of_load hload
    refine ⟨iff_of_false (not_fails_ok _) (not_fails_ok _), ?_, ?_⟩
    · rintro _ ⟨⟩
    · rintro _ ⟨⟩
      exact ⟨hfrom, hfrom.isMeasured, hfrom.isMeasured.isSafe⟩

-- A room that is a number, openings that are a text, and an opening that is null.
example : Project.load [("rooms", .list [.integer 1, .object [("windows", .text "A")],
      .object [("windows", .list [.object [], .null])]])] =
    .error
      [⟨[.field "rooms", .item 0], .notForm .room⟩,
        ⟨[.field "rooms", .item 1, .field "windows"], .notList⟩,
        ⟨[.field "rooms", .item 2, .field "windows", .item 1], .notForm .opening⟩] := by
  rfl

end Fenestration
