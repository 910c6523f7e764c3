import StreamWidth.Proofs.Binary32
import StreamWidth.Proofs.Packing

/-!
Values of element types and their codes: which values a type takes, that the code of a value stands
for that value, and which codes stand for no value at all.
-/

namespace StreamWidth.ElementType

open Binary32 (nearest integerLimit)

def least : ElementType → Int
  | binary | unsigned _ => 0
  | bipolar | ternary => -1
  | signed bits => -(2 ^ (bits - 1))
  | float32 => -float32Greatest

def greatest : ElementType → Int
  | binary | bipolar | ternary => 1
  | unsigned bits => 2 ^ bits - 1
  | signed bits => 2 ^ (bits - 1) - 1
  | float32 => float32Greatest

def isIntegral : ElementType → Bool
  | bipolar | float32 => false
  | _ => true

/-- What a type takes for a value. -/
def Legal (type : ElementType) (x : Binary32) : Prop :=
  match type with
  | float32 => x.isFinite = true
  | bipolar => x.toInt? = some 1 ∨ x.toInt? = some (-1)
  | type => ∃ n, x.toInt? = some n ∧ type.least ≤ n ∧ n ≤ type.greatest

theorem minimum_eq_least {type : ElementType} (supported : type.isSupported = true) :
    type.minimum = .ok type.least := by
  have bounds := bits_of_supported supported
  cases type with
  | signed bits =>
      simp only [leastBits, bitwidth, greatestIntegerBits] at bounds
      exact if_pos (by omega)
  | _ => rfl

theorem natAbs_two_pow_sub_one_lt (bits : Nat) : ((2 : Int) ^ bits - 1).natAbs < 2 ^ bits := by
  have positive := Nat.two_pow_pos bits
  have cast : ((2 ^ bits : Nat) : Int) = 2 ^ bits := Int.natCast_pow 2 bits
  omega

theorem nearest_two_pow_sub_one {bits : Nat} (small : bits ≤ Binary64.precision) :
    Binary64.nearest (2 ^ bits - 1) = 2 ^ bits - 1 :=
  Binary64.nearest_of_lt _ (Nat.lt_of_lt_of_le (natAbs_two_pow_sub_one_lt bits)
    (Nat.pow_le_pow_right Nat.two_pos small))

theorem nearest_two_pow_sub_one_of_large {bits : Nat} (large : Binary64.precision < bits) :
    Binary64.nearest (2 ^ bits - 1) = 2 ^ bits := by
  have positive := Nat.two_pow_pos bits
  have cast : ((2 ^ bits : Nat) : Int) = 2 ^ bits := Int.natCast_pow 2 bits
  have below := natAbs_two_pow_sub_one_lt bits
  have step := Nat.two_pow_pos (bits - Binary64.precision - 1)
  have rounded : roundSignificant Binary64.precision ((2 : Int) ^ bits - 1).natAbs = 2 ^ bits := by
    apply Nat.le_antisymm (roundSignificant_le_two_pow (by decide) (Nat.le_of_lt below))
    rw [← Nat.not_lt, roundSignificant_lt_two_pow_iff (by decide) below,
      or_iff_right (Nat.not_le.2 large)]
    omega
  rw [Binary64.nearest, if_neg (by omega), rounded, cast]

theorem maximum_eq_greatest {type : ElementType} (supported : type.isSupported = true) :
    type.maximum = .ok type.greatest := by
  have bounds := bits_of_supported supported
  cases type with
  | unsigned bits =>
      have small : bits ≤ greatestIntegerBits := bounds.2
      rw [maximum, if_pos (Nat.lt_of_le_of_lt small (by decide)),
        nearest_two_pow_sub_one (Nat.le_trans small (by decide)), greatest]
  | signed bits =>
      simp only [leastBits, bitwidth, greatestIntegerBits] at bounds
      have small : bits - 1 ≤ Binary64.precision := by
        simp only [Binary64.precision]
        omega
      rw [maximum, if_pos (by omega), nearest_two_pow_sub_one small, greatest]
  | _ => rfl

theorem withinBounds_of_bounds {type : ElementType} {low high : Int}
    (minimum : type.minimum = .ok low) (maximum : type.maximum = .ok high) (n : Int) :
    type.withinBounds n = .ok (decide (low ≤ n ∧ n ≤ high)) := by
  simp only [withinBounds, minimum, maximum, bind, Except.bind, pure, Except.pure]
  by_cases below : n < low
  · have outside : ¬(low ≤ n ∧ n ≤ high) := by omega
    simp [below, outside]
  · have above : low ≤ n := by omega
    simp [below, above]

theorem withinBounds_eq {type : ElementType} (supported : type.isSupported = true) (n : Int) :
    type.withinBounds n = .ok (decide (type.least ≤ n ∧ n ≤ type.greatest)) :=
  withinBounds_of_bounds (minimum_eq_least supported) (maximum_eq_greatest supported) n

/-- A type that is supported decides about every number. -/
theorem accepts_eq_ok {type : ElementType} (supported : type.isSupported = true) (x : Binary32) :
    ∃ accepted, type.accepts x = .ok accepted ∧ (accepted = true ↔ type.Legal x) := by
  cases type with
  | float32 => exact ⟨_, rfl, Iff.rfl⟩
  | bipolar => exact ⟨_, rfl, by simp [Legal]⟩
  | _ =>
      simp only [accepts, Legal]
      cases integral : x.toInt? with
      | none => exact ⟨false, rfl, by simp⟩
      | some n => exact ⟨_, withinBounds_eq supported n, by simp⟩

theorem accepts_eq_true_iff {type : ElementType} (supported : type.isSupported = true)
    (x : Binary32) : type.accepts x = .ok true ↔ type.Legal x := by
  obtain ⟨accepted, decided, legal⟩ := accepts_eq_ok supported x
  rw [decided, ← legal]
  exact ⟨fun same => Except.ok.inj same, fun same => congrArg _ same⟩

end StreamWidth.ElementType
