import Fenestration.Service
import Mathlib.Data.List.Forall2

/-!
# What models keep

A model keeps a value if it lets it through as it is.  Each answer of the service is kept by the
model that it is read through (`model_keeps_productJson`), so no field of it is lost or altered on
the way, the total of a price section included.
-/

namespace Fenestration.Service

open Json (Fields)

namespace Model

/-- The value goes through the model as it is. -/
def Keeps (model : Model) (value : Json) : Prop :=
  model value = some value

def Field.Keeps (field : Field) (entry : String × Json) : Prop :=
  entry.1 = field.name ∧ field.model.Keeps entry.2

@[simp] theorem text_keeps (value : String) : text.Keeps (.text value) :=
  rfl

@[simp] theorem text?_keeps (value : Option String) : text?.Keeps (.ofText? value) := by
  cases value with
  | none => rfl
  | some value => rfl

@[simp] theorem figure_keeps (x : Binary64) : figure.Keeps (.real x) :=
  rfl

@[simp] theorem count_keeps (n : Nat) : count.Keeps (.ofNat n) :=
  rfl

/-! ## Lists -/

theorem mapM_eq_some_of_forall₂ {β γ : Type} {f : β → Option γ} {xs : List β} {ys : List γ}
    (h : List.Forall₂ (fun x y => f x = some y) xs ys) : xs.mapM f = some ys := by
  induction h with
  | nil => rfl
  | cons hx _ ih => rw [List.mapM_cons, hx, ih]; rfl

@[simp] theorem list_keeps {β : Type} {item : Model} {toJson : β → Json} (values : List β)
    (h : ∀ value ∈ values, item.Keeps (toJson value)) :
    (list item).Keeps (.list (values.map toJson)) := by
  have hitems : (values.map toJson).mapM item = some (values.map toJson) := by
    apply mapM_eq_some_of_forall₂
    rw [List.forall₂_map_left_iff, List.forall₂_map_right_iff]
    exact List.forall₂_same.mpr h
  rw [Keeps, list, hitems]
  rfl

@[simp] theorem texts_keeps (values : List String) : (list text).Keeps (.ofTexts values) :=
  list_keeps values fun value _ => text_keeps value

/-! ## Records -/

theorem lookup_append_of_mem {values : Fields} (hnames : (values.map Prod.fst).Nodup)
    {entry : String × Json} (h : entry ∈ values) (extra : Fields) :
    (values ++ extra).lookup entry.1 = some entry.2 := by
  induction values with
  | nil => exact absurd h List.not_mem_nil
  | cons first rest ih =>
    obtain ⟨hfirst, hrest⟩ := List.nodup_cons.mp hnames
    rw [List.cons_append, List.lookup_cons]
    rcases List.mem_cons.mp h with rfl | hmem
    · rw [beq_self_eq_true]
    · have hne : (entry.1 == first.1) = false := by
        rw [beq_eq_false_iff_ne]
        rintro heq
        exact hfirst (heq ▸ List.mem_map_of_mem hmem)
      rw [hne]
      exact ih hrest hmem

theorem names_eq {fields : List Field} {values : Fields}
    (h : List.Forall₂ Field.Keeps fields values) : values.map Prod.fst = fields.map Field.name := by
  induction h with
  | nil => rfl
  | cons hfield _ ih => rw [List.map_cons, List.map_cons, hfield.1, ih]

theorem unnamed_append {fields : List Field} {values extra : Fields}
    (hvalues : values.map Prod.fst = fields.map Field.name)
    (hextra : ∀ entry ∈ extra, entry.1 ∉ fields.map Field.name) :
    unnamed fields (values ++ extra) = extra := by
  have hnamed : unnamed fields values = [] := by
    apply List.filter_eq_nil_iff.mpr
    intro entry hentry
    have hname : entry.1 ∈ fields.map Field.name := hvalues ▸ List.mem_map_of_mem hentry
    simpa using hname
  have hrest : unnamed fields extra = extra := by
    apply List.filter_eq_self.mpr
    intro entry hentry
    simpa using hextra entry hentry
  have happend : unnamed fields (values ++ extra) =
      unnamed fields values ++ unnamed fields extra := List.filter_append ..
  rw [happend, hnamed, hrest, List.nil_append]

/-- A record keeps an object whose fields it keeps one by one, and an open one whatever else the
object holds. -/
theorem record_keeps {isOpen : Bool} {fields : List Field} {values extra : Fields}
    (hnames : (fields.map Field.name).Nodup) (hvalues : List.Forall₂ Field.Keeps fields values)
    (hextra : ∀ entry ∈ extra, entry.1 ∉ fields.map Field.name)
    (hopen : isOpen = true ∨ extra = []) :
    (record isOpen fields).Keeps (.object (values ++ extra)) := by
  have hvalueNames := names_eq hvalues
  have hkept : fields.mapM (fun field : Field => field.keep (values ++ extra)) = some values := by
    apply mapM_eq_some_of_forall₂
    refine List.forall₂_iff_zip.mpr ⟨hvalues.length_eq, fun {field entry} hzip => ?_⟩
    obtain ⟨hname, hmodel⟩ := List.forall₂_zip hvalues hzip
    have hlookup := lookup_append_of_mem (hvalueNames ▸ hnames) (List.of_mem_zip hzip).2 extra
    rw [Field.keep, ← hname, hlookup]
    exact congrArg (Option.map (Prod.mk entry.1)) hmodel
  rw [Keeps, record, hkept, unnamed_append hvalueNames hextra]
  rcases hopen with rfl | rfl
  · rfl
  · rw [ite_self]
    rfl

theorem closed_keeps {fields : List Field} {values : Fields}
    (hnames : (fields.map Field.name).Nodup) (hvalues : List.Forall₂ Field.Keeps fields values) :
    (record false fields).Keeps (.object values) := by
  have hkeeps : (record false fields).Keeps (.object (values ++ [])) :=
    record_keeps hnames hvalues (fun _ h => absurd h List.not_mem_nil) (.inr rfl)
  rwa [List.append_nil] at hkeeps

/-! ## The answers -/

theorem breakdown_keeps (amounts : Breakdown Binary64) : breakdown.Keeps amounts.toJson := by
  apply closed_keeps
  · decide
  · simp [Field.Keeps]

theorem cutItem_keeps (item : CutItem Binary64) : cutItem.Keeps item.toJson := by
  apply closed_keeps
  · decide
  · simp [Field.Keeps]

theorem glassPane_keeps (glass : GlassPane Binary64) : glassPane.Keeps glass.toJson := by
  apply closed_keeps
  · decide
  · simp [Field.Keeps]

theorem job_keeps (work : Job Binary64) : job.Keeps work.toJson := by
  apply closed_keeps
  · decide
  · simp [Field.Keeps, planFields, cutItem_keeps, glassPane_keeps]

theorem productionPlan_keeps (jobs : List (Job Binary64)) :
    productionPlan.Keeps (.object [("openings", workOrderJson jobs)]) := by
  apply closed_keeps
  · decide
  · simp [Field.Keeps, workOrderJson, job_keeps]

-- The total of a price section is not named in the model, which is why that has to be open.
theorem documentSection_keeps (part : Section) : documentSection.Keeps part.toJson := by
  apply record_keeps
  · decide
  · simp [Field.Keeps, rowsJson]
  · cases part.total with
    | none => exact fun _ h => absurd h List.not_mem_nil
    | some total => simp [Total.fields]
  · exact .inl rfl

theorem document_keeps (made : Document) : document.Keeps made.toJson := by
  apply closed_keeps
  · decide
  · simp [Field.Keeps, documentSection_keeps]

end Model

-- Everything that is answered about a project goes through the model of its product.
theorem model_keeps_productJson {pricing : Pricing Binary64} {project : Project Binary64}
    {product : Product} {value : Json} (h : productJson pricing project product = .ok value) :
    product.model.Keeps value := by
  cases product with
  | calculate =>
    cases h
    exact Model.breakdown_keeps _
  | production =>
    cases h
    exact Model.productionPlan_keeps _
  | document name =>
    change (project.namedDocument pricing name).map Document.toJson = .ok value at h
    cases hmade : project.namedDocument pricing name with
    | error refusal =>
      rw [hmade] at h
      cases h
    | ok made =>
      rw [hmade] at h
      cases h
      exact Model.document_keeps made

end Fenestration.Service
