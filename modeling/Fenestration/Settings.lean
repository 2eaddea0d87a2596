import Fenestration.Json.Parser
import Fenestration.Pricing.Arguments
import Fenestration.Text.LetterCase

/-!
# Settings

Settings come from arguments and from an environment of text variables, in that order of
precedence, and from standard values.  Names are compared without regard to letter case; of
arguments for one setting the first counts, of variables the last.  Four settings are figures of the
pricing.  A file `.env` in the working directory would come between the environment and the standard
values; here there is none.
-/

namespace Fenestration

@[ext]
structure Settings where
  appName : String
  companyName : String
  logLevel : String
  corsOrigins : List String
  markupRatio : Binary64
  factoryCost : Binary64
  installCost : Binary64
  timberDeduction : Binary64
  deriving DecidableEq

namespace Settings

open Json (Fields)

def standard : Settings where
  appName := "windowquote"
  companyName := "CapLock Windows"
  logLevel := "INFO"
  corsOrigins := ["*"]
  markupRatio := Pricing.standard.markupRatio
  factoryCost := Pricing.standard.factoryCost
  installCost := Pricing.standard.installCost
  timberDeduction := Pricing.standard.timberDeduction

def names : List String :=
  ["APP_NAME", "COMPANY_NAME", "LOG_LEVEL", "CORS_ORIGINS", "MARKUP_RATIO",
    "FACTORY_COST_PER_WINDOW", "INSTALL_COST_PER_WINDOW", "TIMBER_DEDUCTION_MM"]

/-! ## Where a setting comes from -/

def foldCase (name : String) : List Char :=
  name.toList.map Text.lowerCase

def sameName (a b : String) : Bool :=
  foldCase a = foldCase b

def firstNamed {β : Type} (given : List (String × β)) (name : String) : Option β :=
  (given.find? fun (key, _) => sameName key name).map Prod.snd

def lastNamed {β : Type} (given : List (String × β)) (name : String) : Option β :=
  firstNamed given.reverse name

-- A null character stands in no variable, and an equals sign in no name of one.
def checkVariables : List (String × String) → Except Refusal Unit
  | [] => .ok ()
  | (name, value) :: rest =>
      if name.toList.contains '\x00' || value.toList.contains '\x00' then .error .nullInVariable
      else if name.toList.contains '=' then .error .equalsInVariable
      else checkVariables rest

/-! ## Reading the values -/

def readText : Json → Except Fault String
  | .text value => .ok value
  | _ => .error .notText

def readSetting {β : Type} (read : Json → Except Fault β) (name : String)
    (given : Option Json) (otherwise : β) : Checked β :=
  match given with
  | none => .ok otherwise
  | some value => Checked.atStep (.field name) (read value)

-- The texts of a list, or the problems of its items.
def readItems {β : Type} (read : β → Except Fault String) (name : String) (values : List β) :
    Checked (List String) :=
  Checked.under (.field name)
    (Gathered.collect (values.mapIdx fun i value => Checked.atStep (.item i) (read value)))

def readTexts (name : String) (given : Option Json) (otherwise : Checked (List String)) :
    Checked (List String) :=
  match given with
  | none => otherwise
  | some (.list values) => readItems readText name values
  | some _ => .error [⟨[.field name], .notList⟩]

-- An origin with a surrogate that stands alone is an origin too; here the replacement character
-- stands for the surrogate.
def readRawText : Json.Raw → Except Fault String
  | .text codes =>
      .ok (String.ofList (codes.map fun code => (Json.charOfCode? code).getD '\ufffd'))
  | _ => .error .notText

-- The list of origins in the environment: JSON text, in which null is no value.
def originsVariable (environment : List (String × String)) :
    Except Refusal (Checked (List String)) :=
  match lastNamed environment "CORS_ORIGINS" with
  | none => .ok (.ok standard.corsOrigins)
  | some value =>
      match Json.Raw.parse? value with
      | none => .error (.unreadableSetting "CORS_ORIGINS")
      | some .null => .ok (.ok standard.corsOrigins)
      | some (.list values) => .ok (readItems readRawText "CORS_ORIGINS" values)
      | some _ => .ok (.error [⟨[.field "CORS_ORIGINS"], .notList⟩])

def unknownArguments (arguments : Fields) : Checked Unit :=
  let unknown := arguments.filter fun (key, _) => !names.any (sameName key)
  if unknown.isEmpty then .ok ()
  else .error (unknown.map fun (key, _) => ⟨[.field key], .unknownField⟩)

def ofGiven (given : String → Option Json) (origins : Checked (List String)) (arguments : Fields) :
    Checked Settings :=
  let text (name otherwise : String) := readSetting readText name (given name) otherwise
  let figure (name : String) (otherwise : Binary64) :=
    readSetting Json.figure name (given name) otherwise
  let checked : Checked _ := .ok fun a b c d e f g h (_ : Unit) => Settings.mk a b c d e f g h
  let checked := checked.also (text "APP_NAME" standard.appName)
  let checked := checked.also (text "COMPANY_NAME" standard.companyName)
  let checked := checked.also (text "LOG_LEVEL" standard.logLevel)
  let checked := checked.also origins
  let checked := checked.also (figure "MARKUP_RATIO" standard.markupRatio)
  let checked := checked.also (figure "FACTORY_COST_PER_WINDOW" standard.factoryCost)
  let checked := checked.also (figure "INSTALL_COST_PER_WINDOW" standard.installCost)
  let checked := checked.also (figure "TIMBER_DEDUCTION_MM" standard.timberDeduction)
  checked.also (unknownArguments arguments)

/-- The settings from an environment and arguments; of the variables only the list of origins is
no plain text. -/
def load (environment : List (String × String)) (arguments : Fields) : Except Refusal Settings := do
  checkVariables environment
  let fromVariable ← originsVariable environment
  let given (name : String) : Option Json :=
    firstNamed arguments name <|> (lastNamed environment name).map .text
  let origins := readTexts "CORS_ORIGINS" (firstNamed arguments "CORS_ORIGINS") fromVariable
  (ofGiven given origins arguments).asForm .settings

end Settings

-- The standard pricing with the four figures that are settings.
def Pricing.ofSettings (settings : Settings) : Pricing Binary64 :=
  { standard with
    markupRatio := settings.markupRatio
    factoryCost := settings.factoryCost
    installCost := settings.installCost
    timberDeduction := settings.timberDeduction }

end Fenestration
