import Fenestration.Number.Power
import Fenestration.Number.Rounding

/-!
# Doubles

A double is `nan`, a signed infinity, or a sign with a magnitude.  The magnitude of a finite
double is counted in units of `2^-1074`, the smallest positive double, so every finite double is a
signed natural number, comparison is comparison of integers, and an operation is: compute exactly,
then round to nearest, ties to even.  Equality of `Binary64` tells `-0.0` from `0.0`; the
comparisons `≤` and `sameNumber` do not.

Main facts: rounding keeps what fits (`nearestMag_eq_self`) and always yields a representable
magnitude (`nearestMag_hasDigits`), which is why `ofUnits` can carry its proof.
-/

namespace Fenestration

/-! ## Magnitudes -/

def HasDigits (mag : Nat) : Prop :=
  ∃ s k, s < twoPow 53 ∧ mag = s * twoPow k

-- The first magnitude past the doubles, `2^1024` in units of `2^-1074`.
def overflowMag : Nat := twoPow 2098

theorem overflowMag_pos : 0 < overflowMag :=
  twoPow_pos 2098

/-- A magnitude in units of `2^-1074` that a finite double can hold. -/
def Representable (mag : Nat) : Prop :=
  mag < overflowMag ∧ HasDigits mag

-- The distance between neighbouring magnitudes of 53 digits around `mag`.
def spacing (mag : Nat) : Nat :=
  twoPow (mag.log2 - 52)

/-- The magnitude of at most 53 significant digits nearest to `num / den`; a tie goes to the even
digit. -/
def nearestMag (num den : Nat) : Nat :=
  roundHalfEven num (den * spacing (num / den)) * spacing (num / den)

theorem spacing_pos (mag : Nat) : 0 < spacing mag :=
  twoPow_pos _

theorem hasDigits_of_le {s : Nat} (k : Nat) (h : s ≤ twoPow 53) : HasDigits (s * twoPow k) := by
  rcases Nat.lt_or_eq_of_le h with hlt | rfl
  · exact ⟨s, k, hlt, rfl⟩
  · exact ⟨1, 53 + k, by decide, by rw [twoPow_add, Nat.one_mul]⟩

theorem lt_mul_spacing (mag : Nat) : mag < twoPow 53 * spacing mag := by
  refine Nat.lt_of_lt_of_le (lt_twoPow_log2 mag) ?_
  rw [spacing, ← twoPow_add]
  exact twoPow_le_twoPow (by omega)

theorem nearestMag_hasDigits (num den : Nat) : HasDigits (nearestMag num den) := by
  apply hasDigits_of_le
  rcases Nat.eq_zero_or_pos den with rfl | hden
  · have hsmall := roundHalfEven_eq_or num (0 * spacing (num / 0))
    simp only [Nat.zero_mul, Nat.div_zero] at hsmall ⊢
    have hbound : 1 ≤ twoPow 53 := twoPow_pos 53
    omega
  · refine roundHalfEven_le (Nat.mul_pos hden (spacing_pos _)) ?_
    have hnum : num < den * (num / den + 1) := Nat.lt_mul_div_succ num hden
    refine Nat.le_trans (Nat.le_of_lt hnum) ?_
    rw [Nat.mul_left_comm]
    exact Nat.mul_le_mul_left den (lt_mul_spacing _)

theorem spacing_dvd {mag : Nat} (h : HasDigits mag) : spacing mag ∣ mag := by
  obtain ⟨s, k, hs, rfl⟩ := h
  rcases Nat.eq_zero_or_pos s with rfl | hpos
  · rw [Nat.zero_mul]
    exact Nat.dvd_zero _
  · have hlog : (s * twoPow k).log2 < 53 + k := by
      rw [log2_lt_iff (Nat.ne_of_gt (Nat.mul_pos hpos (twoPow_pos k))), twoPow_add]
      exact Nat.mul_lt_mul_of_pos_right hs (twoPow_pos k)
    exact Nat.dvd_trans (twoPow_dvd (by omega)) (Nat.dvd_mul_left _ s)

theorem nearestMag_eq_self {mag den : Nat} (hden : 0 < den) (h : HasDigits mag) :
    nearestMag (mag * den) den = mag := by
  obtain ⟨c, hc⟩ := spacing_dvd h
  have hquot : mag * den / den = mag := Nat.mul_div_cancel mag hden
  have hexact : mag * den = c * (den * spacing mag) := by
    rw [Nat.mul_left_comm, Nat.mul_comm c, ← hc, Nat.mul_comm]
  rw [nearestMag, hquot, hexact,
    roundHalfEven_mul c (Nat.mul_pos hden (spacing_pos mag)), Nat.mul_comm, ← hc]

/-! ## The type -/

/-- A double: not a number, a signed infinity, or a signed magnitude in units of `2^-1074`. -/
inductive Binary64
  | nan
  | infinite (negative : Bool)
  | finite (negative : Bool) (mag : Nat) (fits : Representable mag)
  deriving DecidableEq

namespace Binary64

instance : Inhabited Binary64 := ⟨.nan⟩

def zero (negative : Bool) : Binary64 :=
  .finite negative 0 ⟨overflowMag_pos, 0, 0, by decide, rfl⟩

/-- The double nearest to `num / den` units of `2^-1074`, or infinity where that is too large. -/
def ofUnits (negative : Bool) (num den : Nat) : Binary64 :=
  if h : nearestMag num den < overflowMag then
    .finite negative (nearestMag num den) ⟨h, nearestMag_hasDigits num den⟩
  else
    .infinite negative

def unitsPerOne : Nat := twoPow 1074

theorem unitsPerOne_pos : 0 < unitsPerOne :=
  twoPow_pos 1074

def ofRatio (negative : Bool) (num den : Nat) : Binary64 :=
  ofUnits negative (num * unitsPerOne) den

theorem ofUnits_eq_finite {negative : Bool} {mag : Nat} (fits : Representable mag) {den : Nat}
    (hden : 0 < den) : ofUnits negative (mag * den) den = .finite negative mag fits := by
  simp only [ofUnits, nearestMag_eq_self hden fits.2]
  rw [dif_pos fits.1]

instance : NatCast Binary64 := ⟨fun n => ofRatio false n 1⟩

instance (n : Nat) : OfNat Binary64 n := ⟨(n : Binary64)⟩

def ofInt (n : Int) : Binary64 :=
  ofRatio (n < 0) n.natAbs 1

/-! ## Order -/

def isFinite : Binary64 → Bool
  | .finite _ _ _ => true
  | _ => false

def signed (negative : Bool) (size : Nat) : Int :=
  if negative then -(size : Int) else size

/-- The place of a double on the number line, in units; infinity lies past every finite double,
nan nowhere. -/
def place : Binary64 → Option Int
  | .nan => none
  | .infinite negative => some (signed negative overflowMag)
  | .finite negative mag _ => some (signed negative mag)

-- Whether `x ≤ y` as numbers; nan is comparable to nothing.
protected def le (x y : Binary64) : Bool :=
  match x.place, y.place with
  | some a, some b => decide (a ≤ b)
  | _, _ => false

instance : LE Binary64 := ⟨fun x y => x.le y = true⟩

instance : DecidableLE Binary64 := fun x y => inferInstanceAs (Decidable (x.le y = true))

-- Equal as numbers: the two zeros are the same number, and nan is the same number as nothing.
def sameNumber (x y : Binary64) : Bool :=
  match x.place, y.place with
  | some a, some b => a == b
  | _, _ => false

/-! ## Arithmetic -/

/-- The sum in signed units, rounded; a sum of zero is negative only if both terms are. -/
protected def add : Binary64 → Binary64 → Binary64
  | .nan, _ => .nan
  | _, .nan => .nan
  | .infinite a, .infinite b => if a = b then .infinite a else .nan
  | .infinite a, .finite _ _ _ => .infinite a
  | .finite _ _ _, .infinite b => .infinite b
  | .finite a m _, .finite b n _ =>
      let sum := signed a m + signed b n
      if sum = 0 then zero (a && b) else ofUnits (sum < 0) sum.natAbs 1

protected def neg : Binary64 → Binary64
  | .nan => .nan
  | .infinite a => .infinite (!a)
  | .finite a m h => .finite (!a) m h

-- The product, rounded; zero times infinity is nan.
protected def mul : Binary64 → Binary64 → Binary64
  | .nan, _ => .nan
  | _, .nan => .nan
  | .infinite a, .infinite b => .infinite (a ^^ b)
  | .infinite a, .finite b n _ => if n = 0 then .nan else .infinite (a ^^ b)
  | .finite a m _, .infinite b => if m = 0 then .nan else .infinite (a ^^ b)
  | .finite a m _, .finite b n _ => ofUnits (a ^^ b) (m * n) unitsPerOne

-- The quotient, rounded; `0 / 0` and `∞ / ∞` are nan, any other `x / 0` is infinite.
protected def div : Binary64 → Binary64 → Binary64
  | .nan, _ => .nan
  | _, .nan => .nan
  | .infinite _, .infinite _ => .nan
  | .infinite a, .finite b _ _ => .infinite (a ^^ b)
  | .finite a _ _, .infinite b => zero (a ^^ b)
  | .finite a m _, .finite b n _ =>
      if n = 0 then (if m = 0 then .nan else .infinite (a ^^ b))
      else ofUnits (a ^^ b) (m * unitsPerOne) n

instance : Add Binary64 := ⟨Binary64.add⟩
instance : Neg Binary64 := ⟨Binary64.neg⟩
instance : Sub Binary64 := ⟨fun x y => x + -y⟩
instance : Mul Binary64 := ⟨Binary64.mul⟩
instance : Div Binary64 := ⟨Binary64.div⟩

-- An odd number past `2^53` falls to the even neighbour.
example : (9007199254740993 : Binary64) = 9007199254740992 := by decide +kernel

-- Zero times infinity and infinity less infinity are no numbers.
example : zero false * .infinite false = .nan := by decide +kernel
example : (.infinite false : Binary64) - .infinite false = .nan := by decide +kernel

end Binary64

end Fenestration
