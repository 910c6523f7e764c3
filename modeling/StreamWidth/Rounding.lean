import StreamWidth.Power

/-!
Rounding of natural numbers to the nearest multiple, a half going to the even neighbour.
Every conversion to a floating-point format in this library goes through these two functions.
-/

namespace StreamWidth

/-- The integer nearest to `num / den`; of two equally near ones the even one. -/
def roundHalfEven (num den : Nat) : Nat :=
  let quotient := num / den
  let doubled := 2 * (num % den)
  if doubled < den then quotient
  else if den < doubled then quotient + 1
  else quotient + quotient % 2

def excessBits (precision n : Nat) : Nat :=
  Nat.log2 n + 1 - precision

/-- The number nearest to `n` among those with at most `precision` significant bits. -/
def roundSignificant (precision n : Nat) : Nat :=
  let step := 2 ^ excessBits precision n
  roundHalfEven n step * step

theorem roundHalfEven_one (n : Nat) : roundHalfEven n 1 = n := by
  simp [roundHalfEven, Nat.mod_one]

theorem roundHalfEven_mul (q den : Nat) (positive : 0 < den) :
    roundHalfEven (q * den) den = q := by
  simp [roundHalfEven, Nat.mul_div_cancel _ positive, positive]

theorem excessBits_of_lt {precision n : Nat} (positive : 0 < precision) (small : n < 2 ^ precision) :
    excessBits precision n = 0 := by
  by_cases zero : n = 0
  · subst zero
    simp only [excessBits, Nat.log2_zero]
    omega
  · have := (Nat.log2_lt zero).2 small
    simp only [excessBits]
    omega

theorem roundSignificant_of_lt {precision n : Nat} (positive : 0 < precision)
    (small : n < 2 ^ precision) : roundSignificant precision n = n := by
  simp [roundSignificant, excessBits_of_lt positive small, roundHalfEven_one]

end StreamWidth
