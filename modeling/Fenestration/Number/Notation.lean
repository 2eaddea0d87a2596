import Fenestration.Number.Shortest

/-!
# Number text

A double is written with the digits of its shortest decimal: positionally while the exponent of
the first digit is from -4 to 15, with an exponent of at least two digits otherwise, and always
with a point or an exponent, so that it cannot be taken for a whole number.
-/

namespace Fenestration

def digitsOf (n : Nat) : List Char :=
  Nat.toDigits 10 n

def natText (n : Nat) : String :=
  String.ofList (digitsOf n)

def padZeros (width : Nat) (ds : List Char) : List Char :=
  List.replicate (width - ds.length) '0' ++ ds

def minusSign (negative : Bool) : List Char :=
  if negative then ['-'] else []

def integerText (n : Int) : List Char :=
  minusSign (n < 0) ++ digitsOf n.natAbs

namespace Decimal

def significantDigits (d : Decimal) : List Char :=
  ((digitsOf d.coefficient).reverse.dropWhile (· == '0')).reverse

def pointPlace (d : Decimal) : Int :=
  (digitsOf d.coefficient).length + d.exponent

-- First digits are written positionally from the fourth place after the point to the sixteenth
-- before it.
def isPositional (point : Int) : Bool :=
  -4 ≤ point - 1 && point - 1 < 16

-- Digits with the point at the given place, filled up with zeros on either side.
def positionalText (ds : List Char) (point : Int) : List Char :=
  if point ≤ 0 then '0' :: '.' :: (List.replicate (-point).toNat '0' ++ ds)
  else if ds.length ≤ point.toNat then
    ds ++ List.replicate (point.toNat - ds.length) '0' ++ ['.', '0']
  else
    ds.take point.toNat ++ '.' :: ds.drop point.toNat

-- The first digit, the others behind a point, and the exponent.
def exponentText (ds : List Char) (point : Int) : List Char :=
  let exponent := point - 1
  let fraction := if ds.length ≤ 1 then [] else '.' :: ds.drop 1
  ds.take 1 ++ fraction ++
    'e' :: (if exponent < 0 then '-' else '+') :: padZeros 2 (digitsOf exponent.natAbs)

def text (d : Decimal) : List Char :=
  minusSign d.negative ++
    (if d.coefficient = 0 then ['0', '.', '0']
    else if isPositional d.pointPlace then positionalText d.significantDigits d.pointPlace
    else exponentText d.significantDigits d.pointPlace)

end Decimal

namespace Binary64

def text : Binary64 → List Char
  | .nan => ['n', 'a', 'n']
  | .infinite negative => minusSign negative ++ ['i', 'n', 'f']
  | .finite negative mag fits => (shortest negative mag fits).text

-- The two ends of positional notation, and the smallest positive double.
example : (1e15 : Binary64).text = "1000000000000000.0".toList := by decide +kernel
example : (1e16 : Binary64).text = "1e+16".toList := by decide +kernel
example : (1e-4 : Binary64).text = "0.0001".toList := by decide +kernel
example : (1e-5 : Binary64).text = "1e-05".toList := by decide +kernel
example : (4.9e-324 : Binary64).text = "5e-324".toList := by decide +kernel

instance : ToString Binary64 := ⟨fun x => String.ofList x.text⟩

end Binary64

end Fenestration
