import Fenestration.Service.Transfer

/-!
# Numbers without a literal

Infinities and nan have no literal, so a value that holds one of them cannot be sent.  What a
product is answered with holds none (`isSendable_finiteJson`); what is shown back to its sender
holds one if the sender wrote one, other than in a private field (`isSendable_shownJson_iff`).
-/

namespace Fenestration.Service

open Json (Fields)

/-! ## Parts -/

theorem itemsSendable_iff {items : List Json} :
    itemsSendable items = true ↔ ∀ item ∈ items, isSendable item = true := by
  induction items with
  | nil => exact ⟨fun _ _ hitem => absurd hitem List.not_mem_nil, fun _ => rfl⟩
  | cons item rest ih => rw [itemsSendable, Bool.and_eq_true, ih, List.forall_mem_cons]

theorem fieldsSendable_iff {fields : Fields} :
    fieldsSendable fields = true ↔ ∀ field ∈ fields, isSendable field.2 = true := by
  induction fields with
  | nil => exact ⟨fun _ _ hfield => absurd hfield List.not_mem_nil, fun _ => rfl⟩
  | cons field rest ih => rw [fieldsSendable, Bool.and_eq_true, ih, List.forall_mem_cons]

theorem isSendable_of_lookup {fields : Fields} {name : String} {value : Json}
    (h : fieldsSendable fields = true) (hvalue : fields.lookup name = some value) :
    isSendable value = true := by
  obtain ⟨before, after, rfl, -⟩ := List.lookup_eq_some_iff.mp hvalue
  exact fieldsSendable_iff.mp h (name, value) List.mem_append_cons_self

/-! ## Products -/

mutual

theorem isSendable_finiteJson (value : Json) : isSendable (finiteJson value) = true := by
  cases value with
  | real x =>
    rw [finiteJson, finiteReal]
    split
    · assumption
    · rfl
  | list items => exact itemsSendable_finiteItems items
  | object fields => exact fieldsSendable_finiteFields fields
  | _ => rfl

theorem itemsSendable_finiteItems (items : List Json) :
    itemsSendable (finiteItems items) = true := by
  cases items with
  | nil => rfl
  | cons item rest =>
    rw [finiteItems, itemsSendable, isSendable_finiteJson item, itemsSendable_finiteItems rest]
    rfl

theorem fieldsSendable_finiteFields (fields : Fields) :
    fieldsSendable (finiteFields fields) = true := by
  cases fields with
  | nil => rfl
  | cons field rest =>
    rw [finiteFields, fieldsSendable, isSendable_finiteJson field.2,
      fieldsSendable_finiteFields rest]
    rfl

end

/-! ## Shown values -/

/-- A number without a literal stands somewhere in the value, but in no private field. -/
inductive ShowsNonFinite : Json → Prop
  | real {x : Binary64} (h : x.isFinite = false) : ShowsNonFinite (.real x)
  | item {items : List Json} {item : Json} (hitem : item ∈ items) (h : ShowsNonFinite item) :
      ShowsNonFinite (.list items)
  | field {fields : Fields} {name : String} {value : Json} (hfield : (name, value) ∈ fields)
      (hname : isPrivate name = false) (h : ShowsNonFinite value) :
      ShowsNonFinite (.object fields)

theorem ShowsNonFinite.not_isSendable {value : Json} (h : ShowsNonFinite value) :
    isSendable value ≠ true := by
  induction h with
  | real h => exact Bool.eq_false_iff.mp h
  | item hitem _ ih => exact fun hsendable => ih (itemsSendable_iff.mp hsendable _ hitem)
  | field hfield _ _ ih => exact fun hsendable => ih (fieldsSendable_iff.mp hsendable _ hfield)

mutual

theorem isSendable_shownJson_iff (value : Json) :
    isSendable (shownJson value) = true ↔ ¬ ShowsNonFinite value := by
  cases value with
  | real x =>
    constructor
    · exact fun hsendable h => h.not_isSendable hsendable
    · intro h
      cases hfinite : x.isFinite with
      | true => exact hfinite
      | false => exact absurd (.real hfinite) h
  | list items =>
    refine (itemsSendable_shownItems_iff items).trans ⟨fun hitems h => ?_, fun h item hitem => ?_⟩
    · cases h with
      | item hitem hshows => exact hitems _ hitem hshows
    · exact fun hshows => h (.item hitem hshows)
  | object fields =>
    refine (fieldsSendable_shownFields_iff fields).trans
      ⟨fun hfields h => ?_, fun h field hfield hname => ?_⟩
    · cases h with
      | field hfield hname hshows => exact hfields _ hfield hname hshows
    · exact fun hshows => h (.field hfield hname hshows)
  | _ =>
    refine iff_of_true rfl ?_
    intro h
    cases h

theorem itemsSendable_shownItems_iff (items : List Json) :
    itemsSendable (shownItems items) = true ↔ ∀ item ∈ items, ¬ ShowsNonFinite item := by
  cases items with
  | nil => exact ⟨fun _ _ hitem => absurd hitem List.not_mem_nil, fun _ => rfl⟩
  | cons item rest =>
    rw [shownItems, itemsSendable, Bool.and_eq_true, isSendable_shownJson_iff item,
      itemsSendable_shownItems_iff rest, List.forall_mem_cons]

theorem fieldsSendable_shownFields_iff (fields : Fields) :
    fieldsSendable (shownFields fields) = true ↔
      ∀ field ∈ fields, isPrivate field.1 = false → ¬ ShowsNonFinite field.2 := by
  cases fields with
  | nil => exact ⟨fun _ _ hfield => absurd hfield List.not_mem_nil, fun _ => rfl⟩
  | cons field rest =>
    rw [List.forall_mem_cons, ← fieldsSendable_shownFields_iff rest, shownFields]
    split
    · rename_i hprivate
      simp [hprivate]
    · rename_i hpublic
      rw [fieldsSendable, Bool.and_eq_true, isSendable_shownJson_iff field.2]
      simp [Bool.eq_false_iff.mpr hpublic]

end

end Fenestration.Service
