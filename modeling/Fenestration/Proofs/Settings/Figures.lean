import Fenestration.Document
import Fenestration.Proofs.Settings.Naming

/-!
# Figures that are settings

Settings reach a quote through four figures of the pricing alone.  Each is read from the argument
under its own name, else from the variable under it, else it is the standard figure.  Main
statement: `figures_reach_pricing`, with the changes to arguments and variables that no quote shows.
-/

namespace Fenestration

open Json (Fields)

/-- The figures of a pricing that are settings. -/
inductive PriceSetting
  | markupRatio
  | factoryCost
  | installCost
  | timberDeduction

namespace PriceSetting

def name : PriceSetting → String
  | markupRatio => "MARKUP_RATIO"
  | factoryCost => "FACTORY_COST_PER_WINDOW"
  | installCost => "INSTALL_COST_PER_WINDOW"
  | timberDeduction => "TIMBER_DEDUCTION_MM"

def figure {α : Type} (pricing : Pricing α) : PriceSetting → α
  | markupRatio => pricing.markupRatio
  | factoryCost => pricing.factoryCost
  | installCost => pricing.installCost
  | timberDeduction => pricing.timberDeduction

end PriceSetting

/-- The same rates and the same tables. -/
structure Pricing.SameRates {α : Type} (a b : Pricing α) : Prop where
  headRate : a.headRate = b.headRate
  sillRate : a.sillRate = b.sillRate
  jambRate : a.jambRate = b.jambRate
  mullionRate : a.mullionRate = b.mullionRate
  glassRate : a.glassRate = b.glassRate
  powderCoatRate : a.powderCoatRate = b.powderCoatRate
  glazingFactors : a.glazingFactors = b.glazingFactors
  hardwareCosts : a.hardwareCosts = b.hardwareCosts

theorem Pricing.SameRates.eq {α : Type} {a b : Pricing α} (h : a.SameRates b)
    (hfigures : ∀ setting : PriceSetting, setting.figure a = setting.figure b) : a = b := by
  cases a
  cases b
  obtain ⟨rfl, rfl, rfl, rfl, rfl, rfl, rfl, rfl⟩ := h
  obtain rfl := hfigures .markupRatio
  obtain rfl := hfigures .factoryCost
  obtain rfl := hfigures .installCost
  obtain rfl := hfigures .timberDeduction
  rfl

/-- Every project is quoted the same under both. -/
structure Pricing.SameQuotes (a b : Pricing Binary64) : Prop where
  estimate (project : Project Binary64) : project.estimate a = project.estimate b
  workOrder (project : Project Binary64) :
    project.workOrder a.timberDeduction = project.workOrder b.timberDeduction
  document (project : Project Binary64) (kind : DocumentKind) :
    project.document a kind = project.document b kind

theorem Pricing.SameQuotes.refl (pricing : Pricing Binary64) : pricing.SameQuotes pricing :=
  ⟨fun _ => rfl, fun _ => rfl, fun _ _ => rfl⟩

theorem Pricing.ofSettings_sameRates (settings : Settings) :
    (Pricing.ofSettings settings).SameRates .standard :=
  ⟨rfl, rfl, rfl, rfl, rfl, rfl, rfl, rfl⟩

namespace Settings

/-- Where a figure comes from: the argument under its name, else the variable under it, else the
standard pricing. -/
inductive FigureFrom (environment : List (String × String)) (arguments : Fields)
    (setting : PriceSetting) : Binary64 → Prop
  | argument {value : Json} {x : Binary64} :
      IsGiven arguments setting.name value → value.figure = .ok x →
        FigureFrom environment arguments setting x
  | variable {text : String} {x : Binary64} :
      (∀ value, ¬ IsGiven arguments setting.name value) →
        IsGiven environment setting.name text → (Json.text text).figure = .ok x →
          FigureFrom environment arguments setting x
  | standard :
      (∀ value, ¬ IsGiven arguments setting.name value) →
        (∀ text, ¬ IsGiven environment setting.name text) →
          FigureFrom environment arguments setting (setting.figure .standard)

-- A name of an entry that gives no figure.
def NamesNoFigure {β : Type} (name : String) (_ : β) : Prop :=
  ∀ setting : PriceSetting, foldCase name ≠ foldCase setting.name

/-! ## Loading -/

theorem also_eq_ok_iff {ε γ δ : Type} {f : Gathered ε (γ → δ)} {x : Gathered ε γ} {y : δ} :
    f.also x = .ok y ↔ ∃ a, x = .ok a ∧ ∃ g, f = .ok g ∧ g a = y := by
  cases f <;> cases x <;> simp [Gathered.also]

-- The value that a figure or a text is read from, if there is one: an argument before a variable.
def valueOf (environment : List (String × String)) (arguments : Fields) (name : String) :
    Option Json :=
  firstNamed arguments name <|> (lastNamed environment name).map .text

-- The origins, from an argument or else as they are read from the variable.
def originsOf (arguments : Fields) (fromVariable : Checked (List String)) :
    Checked (List String) :=
  readTexts "CORS_ORIGINS" (firstNamed arguments "CORS_ORIGINS") fromVariable

theorem asForm_eq_ok_iff {γ : Type} {form : Form} {checked : Checked γ} {x : γ} :
    checked.asForm form = .ok x ↔ checked = .ok x := by
  cases checked <;> simp [Checked.asForm, Except.mapError]

theorem load_eq_ok_iff {environment : List (String × String)} {arguments : Fields}
    {settings : Settings} :
    load environment arguments = .ok settings ↔
      checkVariables environment = .ok () ∧
        ∃ fromVariable, originsVariable environment = .ok fromVariable ∧
          ofGiven (valueOf environment arguments) (originsOf arguments fromVariable) arguments =
            .ok settings := by
  unfold load
  cases checkVariables environment with
  | error refusal => simp [bind, Except.bind]
  | ok done =>
    cases originsVariable environment with
    | error refusal => simp [bind, Except.bind]
    | ok fromVariable =>
      constructor
      · intro h
        exact ⟨rfl, fromVariable, rfl, asForm_eq_ok_iff.mp h⟩
      · rintro ⟨-, _, ⟨⟩, h⟩
        exact asForm_eq_ok_iff.mpr h

theorem readSetting_some_eq_ok_iff {γ : Type} {read : Json → Except Fault γ} {name : String}
    {value : Json} {otherwise x : γ} :
    readSetting read name (some value) otherwise = .ok x ↔ read value = .ok x := by
  cases hread : read value <;> simp [readSetting, Checked.atStep, Except.mapError, hread]

/-- Each figure is read from the value under its own name. -/
theorem readSetting_of_ofGiven {given : String → Option Json} {origins : Checked (List String)}
    {arguments : Fields} {settings : Settings} (h : ofGiven given origins arguments = .ok settings)
    (setting : PriceSetting) :
    readSetting Json.figure setting.name (given setting.name) (setting.figure .standard) =
      .ok (setting.figure (Pricing.ofSettings settings)) := by
  unfold ofGiven at h
  simp only [also_eq_ok_iff, Except.ok.injEq, exists_eq_left', ↓existsAndEq, and_true] at h
  obtain ⟨-, -, _, _, _, _, _, _, _, _, ⟨hdeduction, hinstall, hfactory, hmarkup, -⟩, rfl⟩ := h
  cases setting with
  | markupRatio => exact hmarkup
  | factoryCost => exact hfactory
  | installCost => exact hinstall
  | timberDeduction => exact hdeduction

section Loaded

variable {environment : List (String × String)} {arguments : Fields} {settings : Settings}
  (hload : load environment arguments = .ok settings)
include hload

theorem readSetting_of_load (setting : PriceSetting) :
    readSetting Json.figure setting.name (valueOf environment arguments setting.name)
        (setting.figure .standard) =
      .ok (setting.figure (Pricing.ofSettings settings)) := by
  obtain ⟨-, _, -, hgiven⟩ := load_eq_ok_iff.mp hload
  exact readSetting_of_ofGiven hgiven setting

theorem figureFrom_of_load (henvironment : DistinctNames environment)
    (harguments : DistinctNames arguments) (setting : PriceSetting) :
    FigureFrom environment arguments setting (setting.figure (Pricing.ofSettings settings)) := by
  have hread := readSetting_of_load hload setting
  rw [valueOf] at hread
  -- A variable is read only where there is no argument, so the arguments are split on first.
  cases hargument : firstNamed arguments setting.name with
  | some value =>
    rw [hargument] at hread
    exact .argument (isGiven_of_firstNamed hargument) (readSetting_some_eq_ok_iff.mp hread)
  | none =>
    have hnone := harguments.firstNamed_eq_none_iff.mp hargument
    rw [hargument, henvironment.lastNamed_eq_firstNamed] at hread
    cases hvariable : firstNamed environment setting.name with
    | some text =>
      rw [hvariable] at hread
      exact .variable hnone (isGiven_of_firstNamed hvariable)
        (readSetting_some_eq_ok_iff.mp hread)
    | none =>
      rw [hvariable] at hread
      rw [← Except.ok.inj hread]
      exact .standard hnone (henvironment.firstNamed_eq_none_iff.mp hvariable)

/-! ## Changes that no quote shows -/

/-- Where no figure is put in, the pricing stays the same. -/
theorem pricing_eq_of_restated (henvironment : DistinctNames environment)
    (harguments : DistinctNames arguments) {environment' : List (String × String)}
    {arguments' : Fields} {settings' : Settings}
    (hload' : load environment' arguments' = .ok settings')
    (hvariables : Restated NamesNoFigure environment environment')
    (hgiven : Restated NamesNoFigure arguments arguments') :
    Pricing.ofSettings settings' = Pricing.ofSettings settings := by
  refine Pricing.SameRates.eq ⟨rfl, rfl, rfl, rfl, rfl, rfl, rfl, rfl⟩ fun setting => ?_
  have hread := readSetting_of_load hload setting
  have hread' := readSetting_of_load hload' setting
  rw [valueOf, hvariables.lastNamed_eq henvironment fun _ _ hname => hname setting,
    hgiven.firstNamed_eq harguments fun _ _ hname => hname setting, ← valueOf, hread] at hread'
  exact (Except.ok.inj hread').symm

end Loaded

/-! ## Changes that leave the settings as they are -/

-- A variable that the environment can hold, its name in small letters.
def IsHeld (entry : List Char × String) : Prop :=
  '\x00' ∉ entry.1 ∧ '=' ∉ entry.1 ∧ '\x00' ∉ entry.2.toList

/-- A variable that the environment can hold and that no setting is read from. -/
def IsUnrelated (name value : String) : Prop :=
  IsHeld (foldCase name, value) ∧ ∀ setting ∈ names, foldCase name ≠ foldCase setting

theorem mem_foldCase_iff {name : String} {c : Char} (h : c.toNat < 'A'.toNat) :
    c ∈ foldCase name ↔ c ∈ name.toList := by
  simp [foldCase, Text.lowerCase_eq_iff h]

theorem checkVariables_eq_ok_iff {environment : List (String × String)} :
    checkVariables environment = .ok () ↔ ∀ entry ∈ folded environment, IsHeld entry := by
  rw [folded, List.forall_mem_map]
  induction environment with
  | nil => exact ⟨fun _ _ hmem => absurd hmem List.not_mem_nil, fun _ => rfl⟩
  | cons entry rest ih =>
    -- Small letters neither bring in nor take away the two signs, so a folded name does as well.
    have hnull : '\x00' ∈ foldCase entry.1 ↔ '\x00' ∈ entry.1.toList :=
      mem_foldCase_iff (by decide)
    have hequals : '=' ∈ foldCase entry.1 ↔ '=' ∈ entry.1.toList := mem_foldCase_iff (by decide)
    rw [List.forall_mem_cons, ← ih, IsHeld, hnull, hequals, checkVariables]
    split
    · rename_i hfound
      rw [Bool.or_eq_true, List.contains_iff_mem, List.contains_iff_mem] at hfound
      constructor
      · intro h
        cases h
      · rintro ⟨⟨hname, -, hvalue⟩, -⟩
        exact (hfound.elim hname hvalue).elim
    · rename_i hnone
      rw [Bool.or_eq_true, List.contains_iff_mem, List.contains_iff_mem, not_or] at hnone
      split
      · rename_i hfound
        rw [List.contains_iff_mem] at hfound
        constructor
        · intro h
          cases h
        · exact fun h => absurd hfound h.1.2.1
      · rename_i hnotFound
        rw [List.contains_iff_mem] at hnotFound
        exact ⟨fun h => ⟨⟨hnone.1, hnotFound, hnone.2⟩, h⟩, fun h => h.2⟩

theorem unknownArguments_of_ofGiven {given : String → Option Json}
    {origins : Checked (List String)} {arguments : Fields} {settings : Settings}
    (h : ofGiven given origins arguments = .ok settings) :
    unknownArguments arguments = .ok () := by
  obtain ⟨_, hunknown, -⟩ := also_eq_ok_iff.mp h
  exact hunknown

theorem unknownArguments_eq_ok_iff {arguments : Fields} :
    unknownArguments arguments = .ok () ↔
      ∀ entry ∈ folded arguments, ∃ name ∈ names, entry.1 = foldCase name := by
  rw [folded, List.forall_mem_map]
  simp [unknownArguments, sameName]

/-- Settings take what is given under their names, and nothing else. -/
theorem ofGiven_congr {given given' : String → Option Json} {origins : Checked (List String)}
    {arguments arguments' : Fields} (hgiven : ∀ name ∈ names, given name = given' name)
    (hunknown : unknownArguments arguments = unknownArguments arguments') :
    ofGiven given origins arguments = ofGiven given' origins arguments' := by
  simp only [names, List.forall_mem_cons] at hgiven
  obtain ⟨happ, hcompany, hlevel, -, hmarkup, hfactory, hinstall, htimber, -⟩ := hgiven
  simp only [ofGiven, happ, hcompany, hlevel, hmarkup, hfactory, hinstall, htimber, hunknown]

section Restating

variable {environment environment' : List (String × String)} {arguments arguments' : Fields}

theorem originsVariable_eq_of_restated (henvironment : DistinctNames environment)
    (hvariables : Restated IsUnrelated environment environment') :
    originsVariable environment' = originsVariable environment := by
  have horigins : "CORS_ORIGINS" ∈ names := by decide
  unfold originsVariable
  rw [hvariables.lastNamed_eq henvironment fun _ _ hname => hname.2 _ horigins]

theorem valueOf_eq_of_restated (henvironment : DistinctNames environment)
    (harguments : DistinctNames arguments)
    (hvariables : Restated IsUnrelated environment environment')
    (hgiven : Restated (fun _ _ => False) arguments arguments') {name : String}
    (hname : name ∈ names) :
    valueOf environment' arguments' name = valueOf environment arguments name := by
  unfold valueOf
  rw [hvariables.lastNamed_eq henvironment fun _ _ h => h.2 name hname,
    hgiven.firstNamed_eq harguments fun _ _ h => h.elim]

theorem originsOf_eq_of_restated (harguments : DistinctNames arguments)
    (hgiven : Restated (fun _ _ => False) arguments arguments')
    (fromVariable : Checked (List String)) :
    originsOf arguments' fromVariable = originsOf arguments fromVariable := by
  unfold originsOf
  rw [hgiven.firstNamed_eq harguments fun _ _ h => h.elim]

/-- Order, letter case and unrelated variables are nothing to the settings. -/
theorem load_eq_of_restated (henvironment : DistinctNames environment)
    (harguments : DistinctNames arguments)
    (hvariables : Restated IsUnrelated environment environment')
    (hgiven : Restated (fun _ _ => False) arguments arguments') {settings : Settings}
    (hload : load environment arguments = .ok settings) :
    load environment' arguments' = .ok settings := by
  obtain ⟨hheld, fromVariable, horigins, hsettings⟩ := load_eq_ok_iff.mp hload
  have hheld' : checkVariables environment' = .ok () :=
    checkVariables_eq_ok_iff.mpr <|
      hvariables.forall_folded (fun _ _ h => h.1) (checkVariables_eq_ok_iff.mp hheld)
  refine load_eq_ok_iff.mpr ⟨hheld', fromVariable, ?_, ?_⟩
  · rw [originsVariable_eq_of_restated henvironment hvariables]
    exact horigins
  · have hknown := unknownArguments_of_ofGiven hsettings
    have hknown' : unknownArguments arguments' = .ok () :=
      unknownArguments_eq_ok_iff.mpr <|
        hgiven.forall_folded (fun _ _ h => h.elim) (unknownArguments_eq_ok_iff.mp hknown)
    rw [originsOf_eq_of_restated harguments hgiven, ← hsettings]
    exact ofGiven_congr
      (fun _ hname => valueOf_eq_of_restated henvironment harguments hvariables hgiven hname)
      (hknown'.trans hknown.symm)

end Restating

/-- **Four settings and no others reach a quote.**  Each of the four figures comes from the argument
under its name, else from the variable under it, else from the standard pricing.  Order, letter case
and unrelated variables do not change the settings, and entries that give no figure do not change
any quote. -/
theorem figures_reach_pricing {environment : List (String × String)} {arguments : Fields}
    {settings : Settings} (henvironment : DistinctNames environment)
    (harguments : DistinctNames arguments) (hload : load environment arguments = .ok settings) :
    (Pricing.ofSettings settings).SameRates .standard ∧
      (∀ setting : PriceSetting,
        FigureFrom environment arguments setting
          (setting.figure (Pricing.ofSettings settings))) ∧
      (∀ environment' arguments', Restated IsUnrelated environment environment' →
        Restated (fun _ _ => False) arguments arguments' →
          load environment' arguments' = .ok settings) ∧
      ∀ environment' arguments' settings', Restated NamesNoFigure environment environment' →
        Restated NamesNoFigure arguments arguments' →
          load environment' arguments' = .ok settings' →
            (Pricing.ofSettings settings').SameQuotes (Pricing.ofSettings settings) := by
  refine ⟨Pricing.ofSettings_sameRates settings, figureFrom_of_load hload henvironment harguments,
    fun _ _ hvariables hgiven =>
      load_eq_of_restated henvironment harguments hvariables hgiven hload, ?_⟩
  intro environment' arguments' settings' hvariables hgiven hload'
  rw [pricing_eq_of_restated hload henvironment harguments hload' hvariables hgiven]
  exact .refl _

-- Two figures from arguments, one of them also a variable, one from a variable, one standard.
def mixedVariables : List (String × String) :=
  [("markup_ratio", "2.5"), ("Timber_Deduction_MM", "45"), ("COMPANY_NAME", "Sash")]

def mixedArguments : Fields :=
  [("Factory_Cost_Per_Window", .integer 700), ("MARKUP_RATIO", .text "3")]

def mixedSettings : Settings :=
  { standard with
    companyName := "Sash"
    markupRatio := 3
    factoryCost := 700
    timberDeduction := 45 }

theorem load_mixed : load mixedVariables mixedArguments = .ok mixedSettings := by
  refine load_eq_ok_iff.mpr ⟨rfl, .ok standard.corsOrigins, rfl, ?_⟩
  decide +kernel

-- The figures are given in another order and in another case, and another text setting.
theorem figures_reach_pricing_mixed :
    DistinctNames mixedVariables ∧ DistinctNames mixedArguments ∧
      load mixedVariables mixedArguments = .ok mixedSettings ∧
      FigureFrom mixedVariables mixedArguments .markupRatio 3 ∧
      FigureFrom mixedVariables mixedArguments .timberDeduction 45 ∧
      load (put "PATH" "/bin" mixedVariables.reverse)
        [("markup_ratio", .text "3"), ("FACTORY_COST_PER_WINDOW", .integer 700)] =
          .ok mixedSettings ∧
      ∃ settings, load mixedVariables (put "App_Name" (.text "Joinery") mixedArguments) =
          .ok settings ∧ settings.appName = "Joinery" ∧
        (Pricing.ofSettings settings).SameQuotes (Pricing.ofSettings mixedSettings) := by
  have hvariables : DistinctNames mixedVariables := by decide +kernel
  have harguments : DistinctNames mixedArguments := by decide +kernel
  obtain ⟨-, hfigure, hsame, hquotes⟩ :=
    figures_reach_pricing hvariables harguments load_mixed
  have hpath : IsUnrelated "PATH" "/bin" := ⟨⟨by decide, by decide, by decide⟩, by decide⟩
  have hcase : folded mixedArguments =
      folded [("FACTORY_COST_PER_WINDOW", .integer 700), ("markup_ratio", .text "3")] := by
    have hfactory : foldCase "Factory_Cost_Per_Window" = foldCase "FACTORY_COST_PER_WINDOW" := by
      decide +kernel
    have hmarkup : foldCase "MARKUP_RATIO" = foldCase "markup_ratio" := by decide +kernel
    simp only [mixedArguments, folded, List.map_cons, List.map_nil, hfactory, hmarkup]
  have happ : NamesNoFigure "App_Name" (Json.text "Joinery") := by
    intro setting
    cases setting <;> decide
  have hjoinery : load mixedVariables (put "App_Name" (.text "Joinery") mixedArguments) =
      .ok { mixedSettings with appName := "Joinery" } :=
    load_eq_ok_iff.mpr ⟨rfl, .ok standard.corsOrigins, rfl, by decide +kernel⟩
  exact ⟨hvariables, harguments, load_mixed, hfigure .markupRatio, hfigure .timberDeduction,
    hsame _ _ (.trans (.reorder (List.reverse_perm _).symm) (.put hpath _))
      (.trans (.recase hcase) (.reorder (.swap _ _ _))),
    _, hjoinery, rfl, hquotes _ _ _ (.reorder (.refl _)) (.put happ _) hjoinery⟩

end Settings

end Fenestration
