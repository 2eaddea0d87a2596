/-!
# Rounding a quotient to the nearest natural number

One rule serves every rounding in the library, binary and decimal: the nearest integer wins, and
of two equally near ones the even one.  Main facts: an exact quotient is kept
(`roundHalfEven_mul`), and rounding stays on the side of every integer that the quotient is on
(`roundHalfEven_le`, `le_roundHalfEven`).
-/

namespace Fenestration

/-- The natural number nearest to `num / den`; of two equally near ones the even one. -/
def roundHalfEven (num den : Nat) : Nat :=
  let q := num / den
  let twice := 2 * (num % den)
  if twice < den then q
  else if den < twice then q + 1
  else q + q % 2

example : [roundHalfEven 5 2, roundHalfEven 7 2, roundHalfEven 8 3] = [2, 4, 3] := by decide

theorem roundHalfEven_eq_or (num den : Nat) :
    roundHalfEven num den = num / den ∨ roundHalfEven num den = num / den + 1 := by
  unfold roundHalfEven
  dsimp only
  split
  · exact .inl rfl
  · split
    · exact .inr rfl
    · omega

-- Rounding down needs at most half a unit, rounding up at least half a unit.
theorem two_mul_mod_le_of_roundHalfEven_eq {num den : Nat}
    (h : roundHalfEven num den = num / den) : 2 * (num % den) ≤ den := by
  unfold roundHalfEven at h
  dsimp only at h
  split at h
  · omega
  · split at h <;> omega

theorem le_two_mul_mod_of_roundHalfEven_eq {num den : Nat}
    (h : roundHalfEven num den = num / den + 1) : den ≤ 2 * (num % den) := by
  unfold roundHalfEven at h
  dsimp only at h
  split at h <;> omega

theorem roundHalfEven_mul (n : Nat) {den : Nat} (hden : 0 < den) :
    roundHalfEven (n * den) den = n := by
  simp [roundHalfEven, Nat.mul_div_cancel n hden, hden]

theorem roundHalfEven_le {num den n : Nat} (hden : 0 < den) (h : num ≤ n * den) :
    roundHalfEven num den ≤ n := by
  rcases Nat.eq_or_lt_of_le h with rfl | hlt
  · exact Nat.le_of_eq (roundHalfEven_mul n hden)
  · have hq : num / den < n := Nat.div_lt_of_lt_mul (by rwa [Nat.mul_comm])
    rcases roundHalfEven_eq_or num den with h' | h' <;> omega

theorem le_roundHalfEven {num den n : Nat} (hden : 0 < den) (h : n * den ≤ num) :
    n ≤ roundHalfEven num den := by
  have hq : n ≤ num / den := (Nat.le_div_iff_mul_le hden).mpr h
  rcases roundHalfEven_eq_or num den with h' | h' <;> omega

end Fenestration
