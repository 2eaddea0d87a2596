import Fenestration.Number.Notation

/-!
# Reading a numeral

A numeral is an optional sign, digits with an optional point (at least one digit on either side of
it), and an optional exponent.  `Decimal.read?` reads exactly the decimal that a numeral denotes,
however many digits it has.  Grouping underscores between digits are taken out beforehand by
`ungroup`.
-/

namespace Fenestration

-- Takes out underscores, each of which must stand between two digits; `previous` is the
-- character before.
def ungroup (previous : Char) : List Char → Option (List Char)
  | [] => some []
  | ['_'] => none
  | '_' :: c :: cs =>
      if previous.isDigit && c.isDigit then (ungroup c cs).map (c :: ·) else none
  | c :: cs => (ungroup c cs).map (c :: ·)

namespace Decimal

def splitSign : List Char → Bool × List Char
  | '-' :: cs => (true, cs)
  | '+' :: cs => (false, cs)
  | cs => (false, cs)

def readDigits (ds : List Char) : Nat :=
  Nat.ofDigitChars 10 ds 0

-- An exponent that fills the rest of a numeral; nothing stands for zero.
def readExponent : List Char → Option Int
  | [] => some 0
  | mark :: cs =>
      let (negative, ds) := splitSign cs
      if (mark == 'e' || mark == 'E') && !ds.isEmpty && ds.all Char.isDigit then
        some (Binary64.signed negative (readDigits ds))
      else
        none

-- The digits behind a point, if a point comes first, and what follows them.
def splitFraction : List Char → List Char × List Char
  | '.' :: cs => (cs.takeWhile Char.isDigit, cs.dropWhile Char.isDigit)
  | cs => ([], cs)

/-- The decimal denoted by a numeral. -/
def read? (cs : List Char) : Option Decimal :=
  let (negative, cs) := splitSign cs
  let whole := cs.takeWhile Char.isDigit
  let (fraction, rest) := splitFraction (cs.dropWhile Char.isDigit)
  if whole.isEmpty && fraction.isEmpty then none
  else
    (readExponent rest).map fun exponent =>
      ⟨negative, readDigits (whole ++ fraction), exponent - fraction.length⟩

example : read? "-1.50e-3".toList = some ⟨true, 150, -5⟩ := by decide +kernel
example : read? ".".toList = none ∧ read? "1e".toList = none := by decide +kernel

end Decimal

end Fenestration
