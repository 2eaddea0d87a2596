import Fenestration.Project.Loading
import Fenestration.Proofs.Numbered
import Mathlib.Data.List.Forall2
import Mathlib.Data.List.Nodup

/-!
# The problems of a checked value

What is checked in parts fails with the problems of all its parts.  Here is said what the problems
of a value checked part by part are, and in which order they stand.  Main statement:
`Checked.Reports.items`, that a list of values reports exactly the problems of its items, each under
the index of its item.
-/

namespace Fenestration

/-! ## Values with problems -/

def Fails {ε β : Type} (result : Except ε β) : Prop :=
  ∃ problem, result = .error problem

/-- The problems of a gathered value. -/
def Gathered.problems {ε β : Type} : Gathered ε β → List ε
  | .ok _ => []
  | .error problems => problems

section Fails

variable {ε ε' β γ : Type}

theorem not_fails_ok (value : β) : ¬ Fails (.ok value : Except ε β) := by
  rintro ⟨_, h⟩
  cases h

theorem Fails.mapError {result : Except ε β} (h : Fails result) (f : ε → ε') :
    Fails (result.mapError f) := by
  obtain ⟨problem, rfl⟩ := h
  exact ⟨f problem, rfl⟩

theorem Gathered.problems_collect (parts : List (Gathered ε β)) :
    problems (collect parts) = parts.flatMap problems := by
  induction parts with
  | nil => rfl
  | cons part rest ih =>
    rw [List.flatMap_cons, ← ih]
    cases part with
    | ok value =>
      rw [collect]
      cases collect rest <;> rfl
    | error found =>
      rw [collect]
      cases collect rest with
      | ok values => exact (List.append_nil found).symm
      | error others => rfl

theorem Gathered.fails_of_mem_problems {result : Gathered ε β} {problem : ε}
    (h : problem ∈ result.problems) : Fails result := by
  cases result with
  | ok value => exact absurd h List.not_mem_nil
  | error problems => exact ⟨problems, rfl⟩

-- The parts of a list are collected whatever their places are called.
theorem Gathered.collect_mapIdx {f : Json → Gathered ε β} {g : Nat → Json → Gathered ε β}
    (hg : ∀ i value result, f value = .ok result → g i value = .ok result)
    {values : List Json} {results : List β}
    (h : List.Forall₂ (fun value result => f value = .ok result) values results) :
    collect (values.mapIdx g) = .ok results := by
  induction h generalizing g with
  | nil => rfl
  | cons hvalue _ ih =>
    rw [List.mapIdx_cons, hg 0 _ _ hvalue, collect, ih fun i => hg (i + 1)]
    rfl

theorem Gathered.forall₂_of_collect_mapIdx {f : Json → Gathered ε β} {g : Nat → Json → Gathered ε β}
    (hg : ∀ i value result, g i value = .ok result → f value = .ok result) {values : List Json}
    {results : List β} (h : collect (values.mapIdx g) = .ok results) :
    List.Forall₂ (fun value result => f value = .ok result) values results := by
  induction values generalizing g results with
  | nil =>
    cases h
    exact .nil
  | cons value rest ih =>
    rw [List.mapIdx_cons] at h
    cases hvalue : g 0 value with
    | error problems =>
      rw [hvalue, collect] at h
      split at h <;> cases h
    | ok result =>
      rw [hvalue, collect] at h
      cases hrest : collect (rest.mapIdx fun i => g (i + 1)) with
      | error problems =>
        rw [hrest] at h
        cases h
      | ok others =>
        rw [hrest] at h
        cases h
        exact .cons (hg 0 value result hvalue) (ih (fun i => hg (i + 1)) hrest)

end Fails

/-! ## The order of problems -/

-- Items come in the order of their list; between other steps there is no order.
def Step.Precedes : Step → Step → Prop
  | .item i, .item j => i < j
  | _, _ => False

/-- One problem comes before another if a depth-first walk meets its value first. -/
def Problem.Precedes (a b : Problem) : Prop :=
  List.Lex Step.Precedes a.path b.path

theorem Step.not_precedes_self (step : Step) : ¬ step.Precedes step := by
  cases step with
  | field name => exact id
  | item i => exact Nat.lt_irrefl i

instance : Std.Irrefl Problem.Precedes :=
  ⟨fun problem => List.lex_irrefl Step.not_precedes_self problem.path⟩

theorem Problem.Precedes.under {a b : Problem} (h : a.Precedes b) (step : Step) :
    (a.under step).Precedes (b.under step) :=
  .cons h

theorem Problem.precedes_of_lt {i j : Nat} (h : i < j) (a b : Problem) :
    (a.under (.item i)).Precedes (b.under (.item j)) :=
  .rel h

/-! ## Exact reports -/

namespace Checked

variable {β γ : Type}

/-- A checked value reports exactly the problems that are `Bad`, each once, depth first. -/
structure Reports (checked : Checked β) (Bad : Problem → Prop) : Prop where
  ne_nil : Fails checked → checked.problems ≠ []
  mem_iff (problem : Problem) : problem ∈ checked.problems ↔ Bad problem
  sorted : checked.problems.Pairwise Problem.Precedes

theorem reports_ok {Bad : Problem → Prop} (value : β) (h : ∀ problem, ¬ Bad problem) :
    Reports (.ok value) Bad where
  ne_nil := fun hfails => absurd hfails (not_fails_ok value)
  mem_iff problem := by simp [Gathered.problems, h problem]
  sorted := .nil

theorem reports_error (problem : Problem) :
    Reports (.error [problem] : Checked β) (· = problem) where
  ne_nil := fun _ => List.cons_ne_nil problem []
  mem_iff _ := List.mem_singleton
  sorted := List.pairwise_singleton _ problem

namespace Reports

variable {checked : Checked β} {Bad : Problem → Prop}

theorem fails_iff (h : Reports checked Bad) : Fails checked ↔ ∃ problem, Bad problem := by
  constructor
  · intro hfails
    obtain ⟨problem, hproblem⟩ := List.exists_mem_of_ne_nil _ (h.ne_nil hfails)
    exact ⟨problem, (h.mem_iff problem).mp hproblem⟩
  · rintro ⟨problem, hbad⟩
    exact Gathered.fails_of_mem_problems ((h.mem_iff problem).mpr hbad)

theorem nodup (h : Reports checked Bad) : checked.problems.Nodup :=
  h.sorted.nodup

theorem congr (h : Reports checked Bad) {Wrong : Problem → Prop}
    (hiff : ∀ problem, Bad problem ↔ Wrong problem) : Reports checked Wrong where
  ne_nil := h.ne_nil
  mem_iff problem := (h.mem_iff problem).trans (hiff problem)
  sorted := h.sorted

theorem map (h : Reports checked Bad) (f : β → γ) : Reports (Except.map f checked) Bad := by
  cases checked with
  | ok value => exact ⟨fun hfails => absurd hfails (not_fails_ok _), h.mem_iff, h.sorted⟩
  | error problems => exact ⟨fun _ => h.ne_nil ⟨problems, rfl⟩, h.mem_iff, h.sorted⟩

end Reports

theorem problems_under (step : Step) (checked : Checked β) :
    (checked.under step).problems = checked.problems.map (Problem.under step) := by
  cases checked <;> rfl

theorem fails_under_iff {step : Step} {checked : Checked β} :
    Fails (checked.under step) ↔ Fails checked := by
  cases checked with
  | ok value => exact iff_of_false (not_fails_ok value) (not_fails_ok value)
  | error problems => exact ⟨fun _ => ⟨problems, rfl⟩, fun h => h.mapError _⟩

theorem Reports.under {checked : Checked β} {Bad : Problem → Prop} (h : Reports checked Bad)
    (step : Step) :
    Reports (checked.under step)
      (fun problem => ∃ inner, Bad inner ∧ inner.under step = problem) where
  ne_nil hfails := by
    rw [problems_under, Ne, List.map_eq_nil_iff]
    exact h.ne_nil (fails_under_iff.mp hfails)
  mem_iff problem := by
    rw [problems_under, List.mem_map]
    simp only [h.mem_iff]
  sorted := by
    rw [problems_under, List.pairwise_map]
    exact h.sorted.imp fun hprec => hprec.under step

/-! ## Lists -/

theorem exists_fails_of_collect {parts : List (Checked β)} (h : Fails (Gathered.collect parts)) :
    ∃ part ∈ parts, Fails part := by
  induction parts with
  | nil => exact absurd h (not_fails_ok _)
  | cons part rest ih =>
    cases part with
    | error found => exact ⟨.error found, List.mem_cons_self, found, rfl⟩
    | ok value =>
      have hrest : Fails (Gathered.collect rest) := by
        obtain ⟨found, hfound⟩ := h
        rw [Gathered.collect] at hfound
        cases hcollect : Gathered.collect rest with
        | ok values =>
          rw [hcollect] at hfound
          cases hfound
        | error others => exact ⟨others, rfl⟩
      obtain ⟨part, hpart, hfails⟩ := ih hrest
      exact ⟨part, List.mem_cons_of_mem _ hpart, hfails⟩

theorem Reports.collect {load : Json → Checked β} {Bad : Json → Problem → Prop}
    (hload : ∀ value, Reports (load value) (Bad value)) (values : List Json) :
    Reports (Gathered.collect (values.mapIdx fun i value => (load value).under (.item i)))
      (fun problem => ∃ i value inner, values[i]? = some value ∧ Bad value inner ∧
        inner.under (.item i) = problem) := by
  have hpart (i : Nat) (value : Json) := (hload value).under (.item i)
  have hproblems : Gathered.problems
      (Gathered.collect (values.mapIdx fun i value => (load value).under (.item i))) =
      values.zipIdx.flatMap fun (value, i) => ((load value).under (.item i)).problems := by
    rw [Gathered.problems_collect, List.mapIdx_eq_zipIdx_map, List.flatMap_map]
  constructor
  · intro hfails
    obtain ⟨part, hmem, hfails⟩ := exists_fails_of_collect hfails
    obtain ⟨i, hi, rfl⟩ := List.mem_mapIdx.mp hmem
    obtain ⟨problem, hproblem⟩ := List.exists_mem_of_ne_nil _ ((hpart i values[i]).ne_nil hfails)
    rw [Gathered.problems_collect]
    exact List.ne_nil_of_mem (List.mem_flatMap.mpr ⟨_, hmem, hproblem⟩)
  · intro problem
    rw [hproblems, List.mem_flatMap]
    constructor
    · rintro ⟨⟨value, i⟩, hmem, hproblem⟩
      obtain ⟨inner, hbad, hinner⟩ := ((hpart i value).mem_iff problem).mp hproblem
      exact ⟨i, value, inner, List.mem_zipIdx_iff_getElem?.mp hmem, hbad, hinner⟩
    · rintro ⟨i, value, inner, hvalue, hbad, hinner⟩
      exact ⟨(value, i), List.mem_zipIdx_iff_getElem?.mpr hvalue,
        ((hpart i value).mem_iff problem).mpr ⟨inner, hbad, hinner⟩⟩
  · rw [hproblems, List.pairwise_flatMap]
    refine ⟨fun (value, i) _ => (hpart i value).sorted, ?_⟩
    -- Problems of different items are told apart by the indexes of these.
    refine (pairwise_lt_zipIdx values 0).imp fun {a b} hlt x hx y hy => ?_
    obtain ⟨p, -, rfl⟩ := ((hpart a.2 a.1).mem_iff x).mp hx
    obtain ⟨q, -, rfl⟩ := ((hpart b.2 b.1).mem_iff y).mp hy
    exact Problem.precedes_of_lt hlt p q

/-- The problems of a value that stands where a list is wanted: it is neither a list nor void, or
one of its items has a problem. -/
inductive BadItems (Bad : Json → Problem → Prop) (value : Json) : Problem → Prop
  | notList (hvoid : value.isVoid = false) (hlist : ∀ items, value ≠ .list items) :
      BadItems Bad value ⟨[], .notList⟩
  | item {items : List Json} {i : Nat} {item : Json} {problem : Problem}
      (hvalue : value = .list items) (hitem : items[i]? = some item) (h : Bad item problem) :
      BadItems Bad value (problem.under (.item i))

theorem items_of_not_list {load : Json → Checked β} {value : Json}
    (h : ¬ ∃ items, value = .list items) :
    Loading.items load value = if value.isVoid then .ok [] else .error [⟨[], .notList⟩] := by
  cases value with
  | list items => exact absurd ⟨items, rfl⟩ h
  | _ => rfl

/-- A list of values reports exactly the problems of its items. -/
theorem Reports.items {load : Json → Checked β} {Bad : Json → Problem → Prop}
    (hload : ∀ value, Reports (load value) (Bad value)) (value : Json) :
    Reports (Loading.items load value) (BadItems Bad value) := by
  by_cases hlist : ∃ items, value = .list items
  · obtain ⟨values, rfl⟩ := hlist
    refine (Reports.collect hload values).congr fun problem => ⟨?_, ?_⟩
    · rintro ⟨i, item, inner, hitem, hbad, rfl⟩
      exact .item rfl hitem hbad
    · rintro (⟨_, hnone⟩ | ⟨hvalue, hitem, hbad⟩)
      · exact absurd rfl (hnone values)
      · cases hvalue
        exact ⟨_, _, _, hitem, hbad, rfl⟩
  · rw [items_of_not_list hlist]
    by_cases hvoid : value.isVoid = true
    · rw [if_pos hvoid]
      refine reports_ok [] ?_
      rintro problem (⟨hnot, _⟩ | ⟨hvalue, _, _⟩)
      · rw [hvoid] at hnot
        cases hnot
      · exact hlist ⟨_, hvalue⟩
    · rw [if_neg hvoid]
      refine (reports_error ⟨[], .notList⟩).congr fun problem => ⟨?_, ?_⟩
      · rintro rfl
        exact .notList (by simpa using hvoid) fun items h => hlist ⟨items, h⟩
      · rintro (_ | ⟨hvalue, _, _⟩)
        · rfl
        · exact absurd ⟨_, hvalue⟩ hlist

end Checked

end Fenestration
