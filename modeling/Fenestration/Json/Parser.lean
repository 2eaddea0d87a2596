import Fenestration.Json.Basic
import Fenestration.Number.Numeral

/-!
# Reading JSON

`Json.Raw.parse?` reads a whole text as one value.  A repeated key keeps its first place and takes
its last value.  Besides the literals of the standard, `NaN`, `Infinity` and `-Infinity` are read as
numbers; a whole number has at most 4300 digits.  An escape may name a surrogate that stands alone,
which is no character; a value with such a text is no `Json`, so `Json.parse?` does not read it.
-/

namespace Fenestration

namespace Json

/-- A JSON value as it is written.  The texts in it are of codes, and a surrogate that stands alone
is one of them. -/
inductive Raw
  | null
  | bool (value : Bool)
  | integer (value : Int)
  | real (value : Binary64)
  | text (codes : List Nat)
  | list (items : List Raw)
  | object (fields : List (List Nat × Raw))

/-! ## Characters -/

-- The character of a code; a surrogate has none.
def charOfCode? (code : Nat) : Option Char :=
  if h : code.isValidChar then some (Char.ofNatAux code h) else none

def textOfCodes? (codes : List Nat) : Option String :=
  (codes.mapM charOfCode?).map String.ofList

mutual

/-- The value, if all its texts are of characters. -/
def Raw.toJson? : Raw → Option Json
  | .null => some .null
  | .bool value => some (.bool value)
  | .integer value => some (.integer value)
  | .real value => some (.real value)
  | .text codes => (textOfCodes? codes).map .text
  | .list items => (Raw.itemsToJson? items).map .list
  | .object fields => (Raw.fieldsToJson? fields).map .object

def Raw.itemsToJson? : List Raw → Option (List Json)
  | [] => some []
  | item :: rest => do return (← Raw.toJson? item) :: (← Raw.itemsToJson? rest)

def Raw.fieldsToJson? : List (List Nat × Raw) → Option Fields
  | [] => some []
  | (key, value) :: rest => do
      return (← textOfCodes? key, ← Raw.toJson? value) :: (← Raw.fieldsToJson? rest)

end

/-! ## Gaps -/

def isGap (c : Char) : Bool :=
  c = ' ' || c = '\t' || c = '\n' || c = '\r'

def skipGap (cs : List Char) : List Char :=
  cs.dropWhile isGap

/-! ## Texts -/

def hexDigit? (c : Char) : Option Nat :=
  if c.isDigit then some (c.toNat - '0'.toNat)
  else if 'a' ≤ c ∧ c ≤ 'f' then some (c.toNat - 'a'.toNat + 10)
  else if 'A' ≤ c ∧ c ≤ 'F' then some (c.toNat - 'A'.toNat + 10)
  else none

def hexUnit? (a b c d : Char) : Option Nat := do
  let a ← hexDigit? a
  let b ← hexDigit? b
  let c ← hexDigit? c
  let d ← hexDigit? d
  return ((a * 16 + b) * 16 + c) * 16 + d

def shortEscape? : Char → Option Char
  | '"' => some '"'
  | '\\' => some '\\'
  | '/' => some '/'
  | 'b' => some '\x08'
  | 'f' => some '\x0c'
  | 'n' => some '\n'
  | 'r' => some '\r'
  | 't' => some '\t'
  | _ => none

-- The codes of the characters up to the closing quote, and what follows it; escapes may name
-- surrogates.
def readCodes : List Char → Option (List Nat × List Char)
  | [] => none
  | '"' :: rest => some ([], rest)
  | '\\' :: 'u' :: a :: b :: c :: d :: rest => do
      let unit ← hexUnit? a b c d
      let (codes, rest) ← readCodes rest
      return (unit :: codes, rest)
  | '\\' :: c :: rest => do
      let c ← shortEscape? c
      let (codes, rest) ← readCodes rest
      return (c.toNat :: codes, rest)
  | c :: rest =>
      if c.toNat < 0x20 then none
      else (readCodes rest).map fun (codes, rest) => (c.toNat :: codes, rest)

def isPair (high low : Nat) : Bool :=
  0xd800 ≤ high && high < 0xdc00 && 0xdc00 ≤ low && low < 0xe000

-- Two surrogates that belong together are one code.
def joinPairs : List Nat → List Nat
  | [] => []
  | [code] => [code]
  | high :: low :: rest =>
      if isPair high low then
        (0x10000 + (high - 0xd800) * 0x400 + (low - 0xdc00)) :: joinPairs rest
      else high :: joinPairs (low :: rest)

def readText (cs : List Char) : Option (List Nat × List Char) :=
  (readCodes cs).map fun (codes, rest) => (joinPairs codes, rest)

/-! ## Numbers -/

-- The whole part of a number: a zero alone, or digits that do not start with zero.
def takeWhole : List Char → List Char
  | '0' :: _ => ['0']
  | cs => cs.takeWhile Char.isDigit

def takeFraction : List Char → List Char
  | '.' :: cs =>
      let digits := cs.takeWhile Char.isDigit
      if digits.isEmpty then [] else '.' :: digits
  | _ => []

def takeExponent : List Char → List Char
  | mark :: cs =>
      if mark = 'e' || mark = 'E' then
        let sign := (cs.take 1).filter fun c => c = '+' || c = '-'
        let digits := (cs.drop sign.length).takeWhile Char.isDigit
        if digits.isEmpty then [] else mark :: sign ++ digits
      else []
  | [] => []

-- The most digits that a whole number may have.
def wholeDigits : Nat := 4300

-- A number; it is whole if it has neither fraction nor exponent.
def readNumber (cs : List Char) : Option (Raw × List Char) :=
  let sign := (cs.take 1).filter (· = '-')
  let unsigned := cs.drop sign.length
  let whole := takeWhole unsigned
  if whole.isEmpty then none
  else
    let rest := unsigned.drop whole.length
    let fraction := takeFraction rest
    let exponent := takeExponent (rest.drop fraction.length)
    let rest := rest.drop (fraction.length + exponent.length)
    if fraction.isEmpty && exponent.isEmpty then
      if wholeDigits < whole.length then none
      else some (.integer (Binary64.signed (!sign.isEmpty) (Decimal.readDigits whole)), rest)
    else
      (Decimal.read? (sign ++ whole ++ fraction ++ exponent)).map fun d => (.real d.nearest, rest)

/-! ## Values -/

def words : List (String × Raw) :=
  [("null", .null), ("true", .bool true), ("false", .bool false), ("NaN", .real .nan),
    ("Infinity", .real (.infinite false)), ("-Infinity", .real (.infinite true))]

def readAtom (cs : List Char) : Option (Raw × List Char) :=
  match words.find? fun (word, _) => word.toList.isPrefixOf cs with
  | some (word, value) => some (value, cs.drop word.length)
  | none => readNumber cs

mutual

/-- A value with what follows it; every step into a value spends fuel. -/
def readValue : Nat → List Char → Option (Raw × List Char)
  | 0, _ => none
  | fuel + 1, cs =>
      match skipGap cs with
      | '"' :: rest => (readText rest).map fun (s, rest) => (.text s, rest)
      | '[' :: rest =>
          match skipGap rest with
          | ']' :: rest => some (.list [], rest)
          | rest => (readItems fuel rest).map fun (items, rest) => (.list items, rest)
      | '\x7b' :: rest =>
          match skipGap rest with
          | '\x7d' :: rest => some (.object [], rest)
          | rest => (readFields fuel [] rest).map fun (fields, rest) => (.object fields, rest)
      | cs => readAtom cs

def readItems : Nat → List Char → Option (List Raw × List Char)
  | 0, _ => none
  | fuel + 1, cs => do
      let (item, rest) ← readValue fuel cs
      match skipGap rest with
      | ']' :: rest => return ([item], rest)
      | ',' :: rest =>
          let (items, rest) ← readItems fuel rest
          return (item :: items, rest)
      | _ => none

-- The fields of an object up to its closing brace, added to those already read.
def readFields : Nat → List (List Nat × Raw) → List Char →
    Option (List (List Nat × Raw) × List Char)
  | 0, _, _ => none
  | fuel + 1, known, cs => do
      let '"' :: rest := skipGap cs | none
      let (key, rest) ← readText rest
      let ':' :: rest := skipGap rest | none
      let (value, rest) ← readValue fuel rest
      let known := setField key value known
      match skipGap rest with
      | '\x7d' :: rest => return (known, rest)
      | ',' :: rest => readFields fuel known rest
      | _ => none

end

/-- The value written by a whole text.  A step into a value reads a character or is preceded by
one that does, so twice the length of the text is fuel enough. -/
def Raw.parse? (s : String) : Option Raw := do
  let cs := s.toList
  let (value, rest) ← readValue (2 * cs.length + 2) cs
  if (skipGap rest).isEmpty then some value else none

/-- The value written by a whole text, if all its texts are of characters. -/
def parse? (s : String) : Option Json :=
  (Raw.parse? s).bind Raw.toJson?

example : (parse? "[1.0]").isSome = true ∧ (parse? "[01]").isNone = true := by decide +kernel

example : (parse? "\"\\ud83d\\ude00\"").isSome = true ∧ (parse? "\"\\ude00\"").isNone = true := by
  decide +kernel

end Json

end Fenestration
