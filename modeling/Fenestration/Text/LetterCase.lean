/-!
# Letter case

The small and capital forms of characters, as far as they reach the letters A to Z.  Outside
ASCII one character has such a letter as its small form, and ten have such letters as their capital
form.  What is written without letters has no other small form (`lowerCase_eq_iff`).
-/

namespace Fenestration.Text

-- The small form of a character; that of the Kelvin sign is a k.
def lowerCase (c : Char) : Char :=
  if c = '\u212a' then 'k' else c.toLower

-- The capital form of a character; a ligature has several capitals.
def upperCase (c : Char) : List Char :=
  match c with
  | '\u00df' => ['S', 'S']
  | '\u0131' => ['I']
  | '\u017f' => ['S']
  | '\ufb00' => ['F', 'F']
  | '\ufb01' => ['F', 'I']
  | '\ufb02' => ['F', 'L']
  | '\ufb03' => ['F', 'F', 'I']
  | '\ufb04' => ['F', 'F', 'L']
  | '\ufb05' => ['S', 'T']
  | '\ufb06' => ['S', 'T']
  | _ => [c.toUpper]

-- A character before the letters of ASCII is no small form but its own.
theorem lowerCase_eq_iff {c d : Char} (h : d.toNat < 'A'.toNat) : lowerCase c = d ↔ c = d := by
  have hd : d.toNat < 65 := h
  unfold lowerCase Char.toLower
  split
  · rename_i hc
    subst hc
    constructor <;> rintro rfl <;> exact absurd hd (by decide)
  · split
    · rename_i hcapital
      have hlow : 65 ≤ c.val.toNat := UInt32.le_iff_toNat_le.mp hcapital.1
      have hhigh : c.val.toNat ≤ 90 := UInt32.le_iff_toNat_le.mp hcapital.2
      constructor
      · rintro rfl
        have hsum : (c.val + ('a'.val - 'A'.val)).toNat = c.val.toNat + 32 := by
          have hshift : ('a'.val - 'A'.val).toNat = 32 := by decide
          rw [UInt32.toNat_add, hshift]
          exact Nat.mod_eq_of_lt (by omega)
        change (c.val + ('a'.val - 'A'.val)).toNat < 65 at hd
        omega
      · rintro rfl
        change c.val.toNat < 65 at hd
        omega
    · rfl

end Fenestration.Text
