import StreamWidth.Rounding

/-!
Laws of rounding to a number of significant bits: it commutes with shifting, never passes a power of
two, and reaches the next one exactly from the upper half of the last step below it.
-/

namespace StreamWidth

theorem le_roundHalfEven (num den : Nat) : num / den ≤ roundHalfEven num den := by
  simp only [roundHalfEven]
  split
  · exact Nat.le_refl _
  · split <;> omega

theorem roundHalfEven_le (num den : Nat) : roundHalfEven num den ≤ num / den + 1 := by
  simp only [roundHalfEven]
  split
  · omega
  · split <;> omega

/-- An odd quotient is kept exactly below the half. -/
theorem roundHalfEven_eq_div_iff {num den : Nat} (odd : num / den % 2 = 1) :
    roundHalfEven num den = num / den ↔ 2 * (num % den) < den := by
  simp only [roundHalfEven]
  split
  · omega
  · split <;> omega

theorem roundHalfEven_lt_iff {num half bound : Nat} (even : bound % 2 = 0) (positive : 0 < half)
    (below : num < bound * (2 * half)) :
    roundHalfEven num (2 * half) < bound ↔ num + half < bound * (2 * half) := by
  have step : 0 < 2 * half := by omega
  have parts := Nat.div_add_mod num (2 * half)
  have rest := Nat.mod_lt num step
  have quotient : num / (2 * half) < bound := (Nat.div_lt_iff_lt_mul step).2 below
  have least := le_roundHalfEven num (2 * half)
  have greatest := roundHalfEven_le num (2 * half)
  by_cases last : num / (2 * half) + 1 = bound
  · have kept : roundHalfEven num (2 * half) = num / (2 * half) ↔ 2 * (num % (2 * half)) < 2 * half :=
      roundHalfEven_eq_div_iff (by omega)
    have whole : bound * (2 * half) = 2 * half * (num / (2 * half)) + 2 * half := by
      rw [← last, Nat.succ_mul, Nat.mul_comm]
    omega
  · have room := Nat.mul_le_mul_right (2 * half) (show num / (2 * half) + 2 ≤ bound by omega)
    rw [Nat.add_mul, Nat.mul_comm (num / (2 * half))] at room
    omega

theorem roundHalfEven_mul_right (num den factor : Nat) (positive : 0 < factor) :
    roundHalfEven (num * factor) (den * factor) = roundHalfEven num den := by
  have below : 2 * (num % den * factor) < den * factor ↔ 2 * (num % den) < den := by
    rw [← Nat.mul_assoc]
    exact Nat.mul_lt_mul_right positive
  have above : den * factor < 2 * (num % den * factor) ↔ den < 2 * (num % den) := by
    rw [← Nat.mul_assoc]
    exact Nat.mul_lt_mul_right positive
  simp only [roundHalfEven, Nat.mul_div_mul_right _ _ positive, Nat.mul_mod_mul_right, below, above]

theorem log2_mul_two_pow {n : Nat} (nonzero : n ≠ 0) (shift : Nat) :
    Nat.log2 (n * 2 ^ shift) = Nat.log2 n + shift := by
  have bounds := (Nat.log2_eq_iff nonzero).1 rfl
  have product : n * 2 ^ shift ≠ 0 :=
    Nat.mul_ne_zero nonzero (Nat.ne_of_gt (Nat.two_pow_pos shift))
  apply (Nat.log2_eq_iff product).2
  constructor
  · rw [Nat.pow_add]
    exact Nat.mul_le_mul_right _ bounds.1
  · rw [Nat.add_right_comm, Nat.pow_add]
    exact (Nat.mul_lt_mul_right (Nat.two_pow_pos shift)).2 bounds.2

theorem log2_lt_add {n low high : Nat} (nonzero : n ≠ 0) (bounded : n < 2 ^ low * 2 ^ high) :
    Nat.log2 n < low + high := by
  rw [Nat.log2_lt nonzero, Nat.pow_add]
  exact bounded

theorem excessBits_add {precision n : Nat} (large : precision ≤ Nat.log2 n + 1) :
    excessBits precision n + precision = Nat.log2 n + 1 := by
  simp only [excessBits]
  omega

theorem roundSignificant_zero (precision : Nat) : roundSignificant precision 0 = 0 := by
  simp [roundSignificant, roundHalfEven]

theorem roundSignificant_mul_two_pow (precision n shift : Nat) (positive : 0 < precision) :
    roundSignificant precision (n * 2 ^ shift) = roundSignificant precision n * 2 ^ shift := by
  by_cases zero : n = 0
  · subst zero
    rw [Nat.zero_mul, roundSignificant_zero, Nat.zero_mul]
  · have length := log2_mul_two_pow zero shift
    by_cases large : precision ≤ Nat.log2 n + 1
    · have excess : excessBits precision (n * 2 ^ shift) = excessBits precision n + shift := by
        simp only [excessBits, length]
        omega
      rw [roundSignificant, roundSignificant, excess, Nat.pow_add,
        roundHalfEven_mul_right _ _ _ (Nat.two_pow_pos shift), Nat.mul_assoc]
    · -- The number has bits to spare, so even what the shift adds is not rounded.
      have small : n < 2 ^ precision := (Nat.log2_lt zero).1 (by omega)
      have excess : excessBits precision (n * 2 ^ shift) ≤ shift := by
        simp only [excessBits, length]
        omega
      obtain ⟨rest, sum⟩ := Nat.exists_eq_add_of_le' excess
      rw [roundSignificant_of_lt positive small, roundSignificant]
      have multiple : n * 2 ^ shift =
          n * 2 ^ rest * 2 ^ excessBits precision (n * 2 ^ shift) := by
        rw [Nat.mul_assoc, ← Nat.pow_add, ← sum]
      have exact := roundHalfEven_mul (n * 2 ^ rest) _
        (Nat.two_pow_pos (excessBits precision (n * 2 ^ shift)))
      rw [← multiple] at exact
      rw [exact, ← multiple]

theorem quotient_bounds {precision n : Nat} (positive : 0 < precision) (nonzero : n ≠ 0)
    (large : precision ≤ Nat.log2 n + 1) :
    2 ^ (precision - 1) ≤ n / 2 ^ excessBits precision n ∧
      n / 2 ^ excessBits precision n < 2 ^ precision := by
  have bounds := (Nat.log2_eq_iff nonzero).1 rfl
  have sum := excessBits_add large
  have step := Nat.two_pow_pos (excessBits precision n)
  constructor
  · apply (Nat.le_div_iff_mul_le step).2
    rw [← Nat.pow_add, show precision - 1 + excessBits precision n = Nat.log2 n by omega]
    exact bounds.1
  · apply (Nat.div_lt_iff_lt_mul step).2
    rw [← Nat.pow_add, Nat.add_comm, sum]
    exact bounds.2

theorem roundSignificant_two_pow {precision : Nat} (positive : 0 < precision) (width : Nat) :
    roundSignificant precision (2 ^ width) = 2 ^ width := by
  have shifted := roundSignificant_mul_two_pow precision 1 width positive
  rwa [Nat.one_mul, roundSignificant_of_lt positive (Nat.one_lt_two_pow (by omega)), Nat.one_mul]
    at shifted

theorem roundSignificant_le_two_pow {precision width n : Nat} (positive : 0 < precision)
    (bounded : n ≤ 2 ^ width) : roundSignificant precision n ≤ 2 ^ width := by
  by_cases power : n = 2 ^ width
  · exact Nat.le_of_eq (by rw [power, roundSignificant_two_pow positive])
  by_cases zero : n = 0
  · subst zero
    rw [roundSignificant_zero]
    exact Nat.zero_le _
  · by_cases large : precision ≤ Nat.log2 n + 1
    · have quotient := (quotient_bounds positive zero large).2
      have rounded := roundHalfEven_le n (2 ^ excessBits precision n)
      have short : Nat.log2 n + 1 ≤ width := (Nat.log2_lt zero).2 (by omega)
      calc roundSignificant precision n
          ≤ 2 ^ precision * 2 ^ excessBits precision n := Nat.mul_le_mul_right _ (by omega)
        _ = 2 ^ (Nat.log2 n + 1) := by
            rw [← Nat.pow_add, Nat.add_comm, excessBits_add large]
        _ ≤ 2 ^ width := Nat.pow_le_pow_right (by decide) short
    · have small : n < 2 ^ precision := (Nat.log2_lt zero).1 (by omega)
      rwa [roundSignificant_of_lt positive small]

/-- Rounding stays below a power of two unless the number lies in the upper half of the last step
below it. -/
theorem roundSignificant_lt_two_pow_iff {precision width n : Nat} (positive : 0 < precision)
    (bounded : n < 2 ^ width) :
    roundSignificant precision n < 2 ^ width ↔
      width ≤ precision ∨ n + 2 ^ (width - precision - 1) < 2 ^ width := by
  by_cases wide : width ≤ precision
  · rw [roundSignificant_of_lt positive
      (Nat.lt_of_lt_of_le bounded (Nat.pow_le_pow_right (by decide) wide))]
    exact iff_of_true bounded (Or.inl wide)
  · have double := Nat.two_pow_pred_mul_two (show 0 < width by omega)
    have halves : (2 : Nat) ^ (width - precision - 1) ≤ 2 ^ (width - 1) :=
      Nat.pow_le_pow_right (by decide) (by omega)
    by_cases lower : n < 2 ^ (width - 1)
    · have rounded := roundSignificant_le_two_pow positive (Nat.le_of_lt lower)
      have halfPositive := Nat.two_pow_pos (width - 1)
      exact iff_of_true (by omega) (Or.inr (by omega))
    · have nonzero : n ≠ 0 := by
        have := Nat.two_pow_pos (width - 1)
        omega
      have length : Nat.log2 n = width - 1 :=
        (Nat.log2_eq_iff nonzero).2 ⟨by omega, by rwa [show width - 1 + 1 = width by omega]⟩
      have excess : excessBits precision n = width - precision - 1 + 1 := by
        simp only [excessBits, length]
        omega
      have power : (2 : Nat) ^ width = 2 ^ precision * (2 * 2 ^ (width - precision - 1)) := by
        rw [← Nat.pow_succ', ← Nat.pow_add]
        congr 1
        omega
      have even : (2 : Nat) ^ precision % 2 = 0 := by
        rw [← Nat.succ_pred_eq_of_pos positive, Nat.pow_succ, Nat.mul_mod_left]
      rw [roundSignificant, excess, Nat.pow_succ', power]
      rw [power] at bounded
      have half := Nat.two_pow_pos (width - precision - 1)
      rw [Nat.mul_lt_mul_right (by omega), roundHalfEven_lt_iff even half bounded]
      exact (or_iff_right wide).symm

end StreamWidth
