import Fenestration.Settings
import Mathlib.Data.List.Nodup

/-!
# Values given under names

Arguments and variables are lists of values under names, read without regard to letter case.  Where
the names are distinct, which entry counts is no longer a matter of order.  Main statements: what is
looked up is the value given under the name (`DistinctNames.firstNamed_eq_some_iff`), and entries
that are rearranged, written in another case or put in under other names leave it as it is
(`Restated.firstNamed_eq`).
-/

namespace Fenestration

namespace Settings

variable {β : Type}

-- The entries with their names in small letters.
def folded (given : List (String × β)) : List (List Char × β) :=
  given.map fun entry => (foldCase entry.1, entry.2)

/-- No two names are the same but for letter case. -/
def DistinctNames (given : List (String × β)) : Prop :=
  (given.map fun entry => foldCase entry.1).Nodup

instance (given : List (String × β)) : Decidable (DistinctNames given) :=
  inferInstanceAs (Decidable (List.Nodup _))

/-- The value stands under the name, in whatever letter case. -/
def IsGiven (given : List (String × β)) (name : String) (value : β) : Prop :=
  ∃ key, (key, value) ∈ given ∧ foldCase key = foldCase name

theorem isGiven_iff_mem_folded {given : List (String × β)} {name : String} {value : β} :
    IsGiven given name value ↔ (foldCase name, value) ∈ folded given := by
  rw [folded, List.mem_map]
  constructor
  · rintro ⟨key, hmem, hkey⟩
    exact ⟨(key, value), hmem, by rw [hkey]⟩
  · rintro ⟨⟨key, found⟩, hmem, hentry⟩
    obtain ⟨hkey, rfl⟩ := Prod.mk.inj hentry
    exact ⟨key, hmem, hkey⟩

/-! ## Looking up -/

section Lookup

variable {given : List (String × β)} {name : String}

theorem isGiven_of_firstNamed {value : β} (h : firstNamed given name = some value) :
    IsGiven given name value := by
  obtain ⟨entry, hfind, rfl⟩ := Option.map_eq_some_iff.mp h
  have hname := List.find?_some hfind
  change sameName entry.1 name = true at hname
  exact ⟨entry.1, List.mem_of_find?_eq_some hfind, of_decide_eq_true hname⟩

/-- The first entry under a name is the only one. -/
theorem DistinctNames.firstNamed_eq_some_iff (h : DistinctNames given) {value : β} :
    firstNamed given name = some value ↔ IsGiven given name value := by
  refine ⟨isGiven_of_firstNamed, ?_⟩
  rintro ⟨key, hmem, hkey⟩
  cases hfirst : firstNamed given name with
  | none =>
    have hnone := List.find?_eq_none.mp (Option.map_eq_none_iff.mp hfirst) _ hmem
    exact absurd (decide_eq_true hkey) hnone
  | some other =>
    obtain ⟨key', hmem', hkey'⟩ := isGiven_of_firstNamed hfirst
    have hsame := List.inj_on_of_nodup_map h hmem' hmem (hkey'.trans hkey.symm)
    rw [(Prod.mk.inj hsame).2]

theorem DistinctNames.firstNamed_eq_none_iff (h : DistinctNames given) :
    firstNamed given name = none ↔ ∀ value, ¬ IsGiven given name value := by
  rw [Option.eq_none_iff_forall_ne_some]
  exact forall_congr' fun value => not_congr h.firstNamed_eq_some_iff

theorem DistinctNames.reverse (h : DistinctNames given) : DistinctNames given.reverse := by
  rw [DistinctNames, List.map_reverse, List.nodup_reverse]
  exact h

-- Of the variables the last one counts, which makes no difference either.
theorem DistinctNames.lastNamed_eq_firstNamed (h : DistinctNames given) :
    lastNamed given name = firstNamed given name := by
  apply Option.ext
  intro value
  rw [lastNamed, h.reverse.firstNamed_eq_some_iff, h.firstNamed_eq_some_iff,
    isGiven_iff_mem_folded, isGiven_iff_mem_folded, folded, List.map_reverse, List.mem_reverse,
    folded]

end Lookup

/-! ## Restating -/

-- Gives a value under a name, in place of whatever is given under it.
def put (name : String) (value : β) (given : List (String × β)) : List (String × β) :=
  (name, value) :: given.filter fun entry => foldCase entry.1 ≠ foldCase name

/-- The same entries in another order or with names in another case, or with others put in. -/
inductive Restated (mayPut : String → β → Prop) :
    List (String × β) → List (String × β) → Prop
  | reorder {given other : List (String × β)} (h : given.Perm other) :
      Restated mayPut given other
  | recase {given other : List (String × β)} (h : folded given = folded other) :
      Restated mayPut given other
  | put {name : String} {value : β} (h : mayPut name value) (given : List (String × β)) :
      Restated mayPut given (put name value given)
  | trans {first second third : List (String × β)} :
      Restated mayPut first second → Restated mayPut second third → Restated mayPut first third

theorem distinctNames_iff (given : List (String × β)) :
    DistinctNames given ↔ ((folded given).map Prod.fst).Nodup := by
  rw [DistinctNames, folded, List.map_map]
  rfl

theorem folded_put (name : String) (value : β) (given : List (String × β)) :
    folded (put name value given) =
      (foldCase name, value) :: (folded given).filter fun entry => entry.1 ≠ foldCase name := by
  rw [put, folded, List.map_cons, folded, List.filter_map]
  rfl

namespace Restated

variable {mayPut : String → β → Prop} {given other : List (String × β)}

theorem distinctNames (h : Restated mayPut given other) (hgiven : DistinctNames given) :
    DistinctNames other := by
  induction h with
  | reorder h => exact (h.map _).nodup_iff.mp hgiven
  | recase h =>
    rw [distinctNames_iff] at hgiven ⊢
    rwa [← h]
  | @put name value _ given =>
    rw [distinctNames_iff] at hgiven ⊢
    rw [folded_put, List.map_cons, List.nodup_cons]
    refine ⟨?_, hgiven.sublist (List.filter_sublist.map _)⟩
    intro hmem
    obtain ⟨entry, hentry, hname⟩ := List.mem_map.mp hmem
    exact of_decide_eq_true (List.mem_filter.mp hentry).2 hname
  | trans _ _ hfirst hsecond => exact hsecond (hfirst hgiven)

/-- What holds of every entry, its case left aside, holds of every entry afterwards. -/
theorem forall_folded {P : List Char × β → Prop} (h : Restated mayPut given other)
    (hput : ∀ name value, mayPut name value → P (foldCase name, value))
    (hgiven : ∀ entry ∈ folded given, P entry) : ∀ entry ∈ folded other, P entry := by
  induction h with
  | reorder h => exact fun entry hentry => hgiven entry ((h.map _).mem_iff.mpr hentry)
  | recase h => rwa [← h]
  | put h given =>
    rw [folded_put, List.forall_mem_cons]
    exact ⟨hput _ _ h, fun entry hentry => hgiven entry (List.mem_filter.mp hentry).1⟩
  | trans _ _ hfirst hsecond => exact hsecond (hfirst hgiven)

/-- Under a name that nothing is put under the same values are given. -/
theorem isGiven_iff {name : String} (h : Restated mayPut given other)
    (hname : ∀ key value, mayPut key value → foldCase key ≠ foldCase name) {value : β} :
    IsGiven other name value ↔ IsGiven given name value := by
  induction h with
  | reorder h =>
    rw [isGiven_iff_mem_folded, isGiven_iff_mem_folded]
    exact (h.map _).mem_iff.symm
  | recase h => rw [isGiven_iff_mem_folded, isGiven_iff_mem_folded, h]
  | @put key putValue h given =>
    have hkey := (hname key putValue h).symm
    rw [isGiven_iff_mem_folded, isGiven_iff_mem_folded, folded_put, List.mem_cons,
      List.mem_filter]
    simp [hkey]
  | trans _ _ hfirst hsecond => exact hsecond.trans hfirst

theorem firstNamed_eq {name : String} (h : Restated mayPut given other)
    (hgiven : DistinctNames given)
    (hname : ∀ key value, mayPut key value → foldCase key ≠ foldCase name) :
    firstNamed other name = firstNamed given name := by
  apply Option.ext
  intro value
  rw [(h.distinctNames hgiven).firstNamed_eq_some_iff, hgiven.firstNamed_eq_some_iff,
    h.isGiven_iff hname]

theorem lastNamed_eq {name : String} (h : Restated mayPut given other)
    (hgiven : DistinctNames given)
    (hname : ∀ key value, mayPut key value → foldCase key ≠ foldCase name) :
    lastNamed other name = lastNamed given name := by
  rw [(h.distinctNames hgiven).lastNamed_eq_firstNamed, hgiven.lastNamed_eq_firstNamed,
    h.firstNamed_eq hgiven hname]

end Restated

end Settings

end Fenestration
