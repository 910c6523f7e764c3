import StreamWidth.Binary32
import StreamWidth.Proofs.Rounding

/-!
Single-precision numbers and integers: a finite number is found again from its units, and an integer
becomes the number that rounding to 24 significant bits makes of it.
-/

namespace StreamWidth.Binary32

/-- The number itself, or the positive zero for both zeros. -/
def withoutZeroSign (x : Binary32) : Binary32 :=
  if x.magnitude = 0 then zero else x

theorem isNaN_of_isFinite {x : Binary32} (finite : x.isFinite = true) : x.isNaN = false := by
  have bounded : x.magnitude < infinityMagnitude := of_decide_eq_true finite
  simp only [isNaN, decide_eq_false_iff_not]
  omega

theorem sameNumber_self {x : Binary32} (finite : x.isFinite = true) : x.sameNumber x = true := by
  simp [sameNumber, isNaN_of_isFinite finite]

theorem withoutZeroSign_sameNumber {x : Binary32} (finite : x.isFinite = true) :
    x.withoutZeroSign.sameNumber x = true := by
  by_cases nothing : x.magnitude = 0
  · have number : zero.isNaN = false := by decide
    have zeroMagnitude : zero.magnitude = 0 := by decide
    simp [withoutZeroSign, sameNumber, nothing, isNaN_of_isFinite finite, number, zeroMagnitude]
  · rw [withoutZeroSign, if_neg nothing, sameNumber_self finite]

theorem withoutZeroSign_eq_iff {x y : Binary32} (finite : x.isFinite = true)
    (otherFinite : y.isFinite = true) :
    x.withoutZeroSign = y.withoutZeroSign ↔ x.sameNumber y = true := by
  have zeroMagnitude : zero.magnitude = 0 := by decide
  have same : x.sameNumber y = true ↔ x = y ∨ x.magnitude = 0 ∧ y.magnitude = 0 := by
    rw [sameNumber, isNaN_of_isFinite finite, isNaN_of_isFinite otherFinite]
    simp only [Bool.not_false, Bool.and_self, Bool.true_and, Bool.or_eq_true, beq_iff_eq,
      Bool.and_eq_true]
    refine or_congr ⟨fun equal => ?_, fun equal => congrArg bits equal⟩ Iff.rfl
    cases x
    exact congrArg Binary32.mk equal
  rw [same, withoutZeroSign, withoutZeroSign]
  grind

theorem toNat_ofMagnitude (negative : Bool) {magnitude : Nat} (bounded : magnitude < 2 ^ 31) :
    (ofMagnitude negative magnitude).bits.toNat = (if negative then 2 ^ 31 else 0) + magnitude := by
  rw [ofMagnitude, BitVec.toNat_ofNat]
  cases negative <;> simp <;> omega

theorem magnitude_ofMagnitude (negative : Bool) {magnitude : Nat} (bounded : magnitude < 2 ^ 31) :
    (ofMagnitude negative magnitude).magnitude = magnitude := by
  rw [Binary32.magnitude, toNat_ofMagnitude negative bounded]
  cases negative <;> simp <;> omega

theorem negative_ofMagnitude (negative : Bool) {magnitude : Nat} (bounded : magnitude < 2 ^ 31) :
    (ofMagnitude negative magnitude).negative = negative := by
  rw [Binary32.negative, toNat_ofMagnitude negative bounded]
  cases negative with
  | false => simpa using bounded
  | true => simp

theorem eq_of_toNat_bits {x y : Binary32} (same : x.bits.toNat = y.bits.toNat) : x = y := by
  obtain ⟨bits⟩ := x
  obtain ⟨others⟩ := y
  exact congrArg Binary32.mk (BitVec.eq_of_toNat_eq same)

theorem ofMagnitude_magnitude (x : Binary32) : ofMagnitude x.negative x.magnitude = x := by
  apply eq_of_toNat_bits
  have bounded : x.magnitude < 2 ^ 31 := Nat.mod_lt _ (by decide)
  have bits := x.bits.isLt
  rw [toNat_ofMagnitude _ bounded]
  simp only [Binary32.negative, Binary32.magnitude, decide_eq_true_eq]
  split <;> omega

theorem units_ofMagnitude (negative : Bool) {exponent significand : Nat}
    (small : significand ≤ 2 ^ 24) (leading : exponent = 0 ∨ 2 ^ 23 ≤ significand)
    (bounded : exponent * 2 ^ 23 + significand < 2 ^ 31) :
    (ofMagnitude negative (exponent * 2 ^ 23 + significand)).units = significand * 2 ^ exponent := by
  rw [units, scaled, magnitude_ofMagnitude negative bounded]
  by_cases subnormal : significand < 2 ^ 23
  · have zero : exponent = 0 := by omega
    subst zero
    have field : (0 * 2 ^ 23 + significand) / 2 ^ 23 = 0 := by omega
    have fraction : (0 * 2 ^ 23 + significand) % 2 ^ 23 = significand := by omega
    simp only [field, fraction, ↓reduceIte]
  · by_cases carried : significand = 2 ^ 24
    · -- The significand has spilled over into the next power of two.
      have field : (exponent * 2 ^ 23 + significand) / 2 ^ 23 = exponent + 2 := by omega
      have fraction : (exponent * 2 ^ 23 + significand) % 2 ^ 23 = 0 := by omega
      have nonzero : exponent + 2 ≠ 0 := by omega
      simp only [field, fraction, nonzero, ↓reduceIte]
      rw [show exponent + 2 - 1 = exponent + 1 by omega, carried, Nat.pow_succ]
      omega
    · have field : (exponent * 2 ^ 23 + significand) / 2 ^ 23 = exponent + 1 := by omega
      have fraction : (exponent * 2 ^ 23 + significand) % 2 ^ 23 = significand - 2 ^ 23 := by omega
      have nonzero : exponent + 1 ≠ 0 := by omega
      simp only [field, fraction, nonzero, ↓reduceIte]
      rw [show exponent + 1 - 1 = exponent by omega,
        show 2 ^ 23 + (significand - 2 ^ 23) = significand by omega]

def integerLimit : Nat :=
  2 ^ 127

theorem ofUnits_parts {num : Nat} (bounded : num < integerLimit * unitsPerOne) :
    let exponent := excessBits 24 num
    let significand := roundHalfEven num (2 ^ exponent)
    significand ≤ 2 ^ 24 ∧ (exponent = 0 ∨ 2 ^ 23 ≤ significand) ∧
      exponent * 2 ^ 23 + significand < infinityMagnitude := by
  intro exponent significand
  have greatest : infinityMagnitude = 255 * 2 ^ 23 := rfl
  by_cases zero : num = 0
  · have noExponent : exponent = 0 := by
      simp only [exponent, zero]
      exact excessBits_of_lt (by decide) (by decide)
    have noSignificand : significand = 0 := by
      simp only [significand, zero, roundHalfEven, Nat.zero_div, Nat.zero_mod, Nat.mul_zero]
      simp
    omega
  · by_cases large : 24 ≤ Nat.log2 num + 1
    · have quotient := quotient_bounds (by decide) zero large
      have least := le_roundHalfEven num (2 ^ exponent)
      have most := roundHalfEven_le num (2 ^ exponent)
      have sum := excessBits_add large
      have length : Nat.log2 num < 127 + 149 := log2_lt_add zero bounded
      simp only [exponent, significand] at least most ⊢
      omega
    · have small : num < 2 ^ 24 := (Nat.log2_lt zero).1 (by omega)
      have noExponent : exponent = 0 := excessBits_of_lt (by decide) small
      have same : significand = num := by
        simp only [significand, noExponent, Nat.pow_zero, roundHalfEven_one]
      omega

theorem ofUnits_eq {num : Nat} (negative : Bool) (bounded : num < integerLimit * unitsPerOne) :
    ofUnits negative num 1 = ofMagnitude negative
      (excessBits 24 num * 2 ^ 23 + roundHalfEven num (2 ^ excessBits 24 num)) := by
  have parts := (ofUnits_parts bounded).2.2
  simp only [ofUnits, Nat.div_one, Nat.one_mul]
  rw [Nat.min_eq_left (Nat.le_of_lt parts)]

theorem isFinite_ofUnits {num : Nat} (negative : Bool) (bounded : num < integerLimit * unitsPerOne) :
    (ofUnits negative num 1).isFinite = true := by
  have parts := (ofUnits_parts bounded).2.2
  have greatest : infinityMagnitude < 2 ^ 31 := by decide
  rw [ofUnits_eq negative bounded, isFinite, magnitude_ofMagnitude negative (by omega)]
  exact decide_eq_true parts

theorem negative_ofUnits {num : Nat} (negative : Bool) (bounded : num < integerLimit * unitsPerOne) :
    (ofUnits negative num 1).negative = negative := by
  have parts := (ofUnits_parts bounded).2.2
  have greatest : infinityMagnitude < 2 ^ 31 := by decide
  rw [ofUnits_eq negative bounded, negative_ofMagnitude negative (by omega)]

/-- The nearest number has the units that rounding leaves. -/
theorem units_ofUnits {num : Nat} (negative : Bool) (bounded : num < integerLimit * unitsPerOne) :
    (ofUnits negative num 1).units = roundSignificant 24 num := by
  obtain ⟨small, leading, finite⟩ := ofUnits_parts bounded
  have greatest : infinityMagnitude < 2 ^ 31 := by decide
  rw [ofUnits_eq negative bounded, units_ofMagnitude negative small leading (by omega)]
  rfl

theorem ofUnits_units {x : Binary32} (finite : x.isFinite = true) :
    ofUnits x.negative x.units 1 = x := by
  have bounded : x.magnitude < infinityMagnitude := of_decide_eq_true finite
  by_cases subnormal : x.magnitude / 2 ^ 23 = 0
  · have small : x.magnitude < 2 ^ 24 := by omega
    have units : x.units = x.magnitude := by
      simp only [Binary32.units, scaled, subnormal, ↓reduceIte, Nat.pow_zero, Nat.mul_one]
      omega
    rw [ofUnits, units, Nat.div_one, excessBits_of_lt (by decide) small]
    simp only [Nat.pow_zero, Nat.mul_one, roundHalfEven_one, Nat.zero_mul, Nat.zero_add]
    rw [Nat.min_eq_left (Nat.le_of_lt bounded), ofMagnitude_magnitude]
  · let exponent := x.magnitude / 2 ^ 23 - 1
    let significand := 2 ^ 23 + x.magnitude % 2 ^ 23
    have units : x.units = significand * 2 ^ exponent := by
      simp only [Binary32.units, scaled, subnormal, ↓reduceIte, significand, exponent]
    have positive := Nat.two_pow_pos exponent
    have nonzero : significand ≠ 0 := by omega
    have length : Nat.log2 significand = 23 := (Nat.log2_eq_iff nonzero).2 (by omega)
    have excess : excessBits 24 x.units = exponent := by
      rw [excessBits, units, log2_mul_two_pow nonzero, length]
      omega
    rw [ofUnits, Nat.div_one, excess, Nat.one_mul]
    simp only [units]
    rw [roundHalfEven_mul _ _ positive, show exponent * 2 ^ 23 + significand = x.magnitude by omega,
      Nat.min_eq_left (Nat.le_of_lt bounded), ofMagnitude_magnitude]

theorem units_eq_zero_iff (x : Binary32) : x.units = 0 ↔ x.magnitude = 0 := by
  rw [units, Nat.mul_eq_zero, or_iff_left (Nat.ne_of_gt (Nat.two_pow_pos _)), scaled]
  split <;> omega

theorem unitsPerOne_positive : 0 < unitsPerOne :=
  Nat.two_pow_pos 149

theorem toInt?_eq_some_iff (x : Binary32) (n : Int) :
    x.toInt? = some n ↔ x.isFinite = true ∧ x.units = n.natAbs * unitsPerOne ∧
      (n ≠ 0 → x.negative = decide (n < 0)) := by
  constructor
  · intro found
    simp only [toInt?, Bool.and_eq_true, beq_iff_eq] at found
    split at found
    · rename_i whole
      have exact := Nat.div_mul_cancel (Nat.dvd_of_mod_eq_zero whole.2)
      have value := Option.some.inj found
      generalize x.units / unitsPerOne = count at exact value
      cases sign : x.negative with
      | false =>
          rw [sign, if_neg Bool.false_ne_true] at value
          exact ⟨whole.1, by rw [← exact, ← value]; rfl, fun _ => (decide_eq_false (by omega)).symm⟩
      | true =>
          rw [sign, if_pos rfl] at value
          refine ⟨whole.1, ?_, fun _ => (decide_eq_true (by omega)).symm⟩
          rw [← exact, ← value, Int.natAbs_neg, Int.natAbs_natCast]
    · simp at found
  · rintro ⟨finite, units, sign⟩
    have whole : x.units % unitsPerOne = 0 := by rw [units, Nat.mul_mod_left]
    have count : x.units / unitsPerOne = n.natAbs := by
      rw [units, Nat.mul_div_cancel _ unitsPerOne_positive]
    simp only [toInt?, finite, whole, count, beq_self_eq_true, Bool.and_self, ↓reduceIte,
      Option.some.injEq]
    by_cases zero : n = 0
    · simp [zero]
    · rw [sign zero]
      simp only [decide_eq_true_eq]
      split <;> omega

theorem toInt?_withoutZeroSign (x : Binary32) : x.withoutZeroSign.toInt? = x.toInt? := by
  by_cases nothing : x.magnitude = 0
  · have finite : x.isFinite = true := decide_eq_true (by rw [nothing]; decide)
    have units : x.units = (0 : Int).natAbs * unitsPerOne := by
      rw [(units_eq_zero_iff x).2 nothing, Int.natAbs_zero, Nat.zero_mul]
    have found : x.toInt? = some 0 := (toInt?_eq_some_iff x 0).2 ⟨finite, units, by simp⟩
    rw [withoutZeroSign, if_pos nothing, found]
    decide
  · rw [withoutZeroSign, if_neg nothing]

theorem toInt?_eq_of_sameNumber {x y : Binary32} (finite : x.isFinite = true)
    (otherFinite : y.isFinite = true) (same : x.sameNumber y = true) : x.toInt? = y.toInt? := by
  rw [← toInt?_withoutZeroSign x, (withoutZeroSign_eq_iff finite otherFinite).2 same,
    toInt?_withoutZeroSign]

theorem toIntWithin_of_toInt? {x : Binary32} {n low high : Int} (integral : x.toInt? = some n)
    (above : low ≤ n) (below : n ≤ high) : x.toIntWithin low high = n := by
  obtain ⟨finite, units, sign⟩ := (toInt?_eq_some_iff x n).1 integral
  have number := isNaN_of_isFinite finite
  have count : x.units / unitsPerOne = n.natAbs := by
    rw [units, Nat.mul_div_cancel _ unitsPerOne_positive]
  simp only [toIntWithin, number, finite, count, Bool.false_eq_true, ↓reduceIte]
  by_cases zero : n = 0
  · subst zero
    split <;> omega
  · rw [sign zero]
    simp only [decide_eq_true_eq]
    split <;> omega

theorem eq_ofInt_of_toInt? {x : Binary32} {n : Int} (integral : x.toInt? = some n)
    (nonzero : n ≠ 0) : x = ofInt n := by
  obtain ⟨finite, units, sign⟩ := (toInt?_eq_some_iff x n).1 integral
  rw [ofInt, ← sign nonzero, ← units, ofUnits_units finite]

theorem ofInt_of_toInt? {x : Binary32} {n : Int} (integral : x.toInt? = some n) :
    ofInt n = x.withoutZeroSign := by
  have units := ((toInt?_eq_some_iff x n).1 integral).2.1
  by_cases zero : n = 0
  · subst zero
    have nothing : x.magnitude = 0 := (units_eq_zero_iff x).1 (by simpa using units)
    rw [withoutZeroSign, if_pos nothing]
    decide
  · have something : x.magnitude ≠ 0 := by
      intro nothing
      have zeroUnits := (units_eq_zero_iff x).2 nothing
      rw [units, Nat.mul_eq_zero] at zeroUnits
      have positive := unitsPerOne_positive
      omega
    rw [withoutZeroSign, if_neg something, ← eq_ofInt_of_toInt? integral zero]

def nearest (n : Int) : Int :=
  if n < 0 then -(roundSignificant 24 n.natAbs : Int) else (roundSignificant 24 n.natAbs : Int)

theorem toInt?_ofInt {n : Int} (bounded : n.natAbs < integerLimit) :
    (ofInt n).toInt? = some (nearest n) := by
  have units : n.natAbs * unitsPerOne < integerLimit * unitsPerOne :=
    (Nat.mul_lt_mul_right unitsPerOne_positive).2 bounded
  apply (toInt?_eq_some_iff _ _).2
  refine ⟨isFinite_ofUnits _ units, ?_, fun nonzero => ?_⟩
  · have rounded : (nearest n).natAbs = roundSignificant 24 n.natAbs := by
      simp only [nearest]
      split <;> omega
    rw [ofInt, units_ofUnits _ units, rounded, unitsPerOne,
      roundSignificant_mul_two_pow 24 _ 149 (by decide)]
  · rw [ofInt, negative_ofUnits _ units]
    simp only [nearest] at nonzero ⊢
    by_cases sign : n < 0
    · simp only [sign, ↓reduceIte, decide_true] at nonzero ⊢
      symm
      simp only [decide_eq_true_eq]
      omega
    · simp only [sign, ↓reduceIte, decide_false] at nonzero ⊢
      symm
      simp only [decide_eq_false_iff_not]
      omega

end StreamWidth.Binary32
