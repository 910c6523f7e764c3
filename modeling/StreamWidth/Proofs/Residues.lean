import StreamWidth.Proofs.Sequences

/-!
Sequences as residues. Wrapping finds the one integer between the bounds of a type that differs from
a position by a multiple of their span, so a sequence comes again after a number of elements that
its step alone decides.
-/

namespace StreamWidth

namespace ElementType

/-- How many integers a sequence tells apart in a type. -/
def modulus (type : ElementType) : Nat :=
  if type = bipolar then 2 else (type.greatest - type.least + 1).toNat

theorem modulus_of_integral {type : ElementType} (integral : type.isIntegral = true) :
    (type.modulus : Int) = type.greatest - type.least + 1 := by
  have ordered := type.least_le_greatest
  have plain : type ≠ bipolar := by
    rintro rfl
    simp [isIntegral] at integral
  rw [modulus, if_neg plain]
  omega

theorem isIntegral_of_ne {type : ElementType} (discrete : type ≠ float32) (plain : type ≠ bipolar) :
    type.isIntegral = true := by
  cases type with
  | float32 => exact absurd rfl discrete
  | bipolar => exact absurd rfl plain
  | _ => rfl

end ElementType

namespace Pattern

open ElementType (modulus)

/-- An integer between the bounds of a type, a multiple of their span away from a position. -/
structure Residue (type : ElementType) (position n : Int) : Prop where
  above : type.least ≤ n
  below : n ≤ type.greatest
  congruent : n % (type.greatest - type.least + 1) = position % (type.greatest - type.least + 1)

theorem wrapped_of_integral {type : ElementType} (integral : type.isIntegral = true) (n : Int) :
    wrapped type n = type.least + (n - type.least) % (type.greatest - type.least + 1) := by
  cases type with
  | bipolar | float32 => simp [ElementType.isIntegral] at integral
  | _ => rfl

/-- There is one such integer for each position, and wrapping finds it. -/
theorem residue_iff {type : ElementType} (integral : type.isIntegral = true) (position n : Int) :
    Residue type position n ↔ n = wrapped type position := by
  have ordered := type.least_le_greatest
  rw [wrapped_of_integral integral]
  constructor
  · rintro ⟨above, below, congruent⟩
    have shifted : (n - type.least) % (type.greatest - type.least + 1) =
        (position - type.least) % (type.greatest - type.least + 1) := by
      rw [Int.sub_emod, congruent, ← Int.sub_emod]
    rw [← shifted, Int.emod_eq_of_lt (by omega) (by omega)]
    omega
  · rintro rfl
    obtain ⟨above, below⟩ := wrapped_bounds ordered position
    refine ⟨above, below, ?_⟩
    rw [Int.add_emod_emod]
    congr 1
    omega

theorem wrapped_eq_iff {type : ElementType} (discrete : type ≠ .float32) (m n : Int) :
    wrapped type m = wrapped type n ↔ (type.modulus : Int) ∣ m - n := by
  by_cases bipolar : type = .bipolar
  · subst bipolar
    simp only [wrapped, modulus, ↓reduceIte]
    omega
  · have integral := ElementType.isIntegral_of_ne discrete bipolar
    rw [wrapped_of_integral integral, wrapped_of_integral integral,
      ElementType.modulus_of_integral integral, Int.add_right_inj,
      Int.emod_eq_emod_iff_emod_sub_eq_zero, ← Int.dvd_iff_emod_eq_zero]
    rw [show m - type.least - (n - type.least) = m - n by omega]

def period (pattern : Pattern) (type : ElementType) : Nat :=
  type.modulus / type.modulus.gcd pattern.step.natAbs

theorem modulus_positive (type : ElementType) : 0 < type.modulus := by
  have ordered := type.least_le_greatest
  rw [modulus]
  split <;> omega

theorem period_dvd_iff (pattern : Pattern) (type : ElementType) (count : Nat) :
    pattern.period type ∣ count ↔ (type.modulus : Int) ∣ count * pattern.step := by
  have common : 0 < type.modulus.gcd pattern.step.natAbs :=
    Nat.gcd_pos_of_pos_left _ (modulus_positive type)
  rw [period, Nat.div_dvd_iff_dvd_mul (Nat.gcd_dvd_left _ _) common, Nat.dvd_gcd_mul_iff_dvd_mul,
    ← Int.natAbs_dvd_natAbs, Int.natAbs_mul, Int.natAbs_natCast, Int.natAbs_natCast, Nat.mul_comm]

theorem wrapped_position_eq_iff (pattern : Pattern) {type : ElementType}
    (discrete : type ≠ .float32) {index later : Nat} (before : index ≤ later) :
    wrapped type (pattern.start + later * pattern.step) =
      wrapped type (pattern.start + index * pattern.step) ↔
      pattern.period type ∣ later - index := by
  have distance : pattern.start + later * pattern.step - (pattern.start + index * pattern.step) =
      (later - index : Nat) * pattern.step := by
    rw [Int.ofNat_sub before, Int.sub_mul]
    omega
  rw [wrapped_eq_iff discrete, distance, period_dvd_iff]

def StandsFor (type : ElementType) (position n : Int) : Prop :=
  if type = .bipolar then (position % 2 = 1 → n = 1) ∧ (position % 2 = 0 → n = -1)
  else ∀ m, Residue type position m ↔ m = n

theorem standsFor_wrapped {type : ElementType} (discrete : type ≠ .float32) (position : Int) :
    StandsFor type position (wrapped type position) := by
  rw [StandsFor]
  split
  · rename_i bipolar
    subst bipolar
    simp only [wrapped]
    constructor
    · intro odd
      rw [if_neg (by omega)]
    · intro even
      rw [if_pos even]
  · rename_i bipolar
    exact residue_iff (ElementType.isIntegral_of_ne discrete bipolar) position

theorem toInt?_ofInt_wrapped {type : ElementType} (supported : type.isSupported = true)
    (exact : type.isExact = true) (discrete : type ≠ .float32) (n : Int) :
    (Binary32.ofInt (wrapped type n)).toInt? = some (wrapped type n) := by
  by_cases bipolar : type = .bipolar
  · subst bipolar
    simp only [wrapped]
    split <;> decide
  · have integral := ElementType.isIntegral_of_ne discrete bipolar
    obtain ⟨above, below⟩ := wrapped_bounds type.least_le_greatest n
    rw [← wrapped_of_integral integral] at above below
    have bounds := ElementType.bounds_of_integral supported integral
    have limit : 2 ^ 33 < Binary32.integerLimit := by decide
    have fits := ElementType.fits_of_integral integral above below
    rw [Binary32.toInt?_ofInt (by omega), ElementType.nearest_of_fits integral exact fits]

end Pattern

namespace NodeDescription

variable {description : NodeDescription} {pattern : Pattern} {converter : Converter}

/-- A sequence makes an input exactly if no step of it leaves 64 bits. A converter of a type that
single precision has all integers of takes this input; each element is the one integer of the type
that stands for its position, and comes again after as many elements as the step makes it. -/
theorem generateInput_residues (given : description.pattern = some pattern)
    (sequence : pattern.kind = "sequential") (exact : converter.type.isExact = true)
    (discrete : converter.type ≠ .float32) :
    ((∃ tensor, description.generateInput converter = .ok (some tensor)) ↔
      converter.shape.elementCount < Tensor.capacity ∧
        ∀ index < converter.shape.elementCount, pattern.Reaches converter.type index) ∧
    ∀ tensor, description.generateInput converter = .ok (some tensor) →
      checkInput converter tensor = .ok () ∧
      (∀ index < converter.shape.elementCount, ∃ n, tensor.data[index]? = some (.ofInt n) ∧
        (Binary32.ofInt n).toInt? = some n ∧
        Pattern.StandsFor converter.type (pattern.start + index * pattern.step) n) ∧
      ∀ index later, index ≤ later → later < converter.shape.elementCount →
        (tensor.data[later]? = tensor.data[index]? ↔
          pattern.period converter.type ∣ later - index) := by
  have supported := converter.supported
  have elements (count : Nat) : pattern.elements converter.type count =
      pattern.sequential converter.type count := if_pos sequence
  simp only [generateInput_eq_ok_iff given]
  constructor
  · rw [Pattern.exists_generate_iff, elements, Pattern.exists_sequential_iff supported]
  · intro tensor success
    obtain ⟨_, _, made⟩ := Pattern.eq_of_generate success
    have legal := Pattern.legal_elementsOf_iff supported made
    rw [elements] at made
    obtain ⟨data, _⟩ := Pattern.eq_of_sequential supported made
    have found {index : Nat} (inside : index < converter.shape.elementCount) :
        tensor.data[index]? = some (.ofInt (Pattern.wrapped converter.type
          (pattern.start + index * pattern.step))) := by
      rw [data, List.getElem?_map, List.getElem?_range inside]
      rfl
    have whole (n : Int) := Pattern.toInt?_ofInt_wrapped supported exact discrete n
    refine ⟨?_, fun index inside => ?_, fun index later before inside => ?_⟩
    · rw [checkInput_iff_legal success, legal]
      exact Or.inr fun index _ => ElementType.roundsWithin_of_isExact exact _
    · exact ⟨_, found inside, whole _, Pattern.standsFor_wrapped discrete _⟩
    · rw [found inside, found (Nat.lt_of_le_of_lt before inside),
        ← pattern.wrapped_position_eq_iff discrete before, Option.some.injEq]
      -- Single precision keeps different integers of the type apart.
      constructor
      · intro same
        exact Option.some.inj ((whole _).symm.trans ((congrArg _ same).trans (whole _)))
      · exact fun same => congrArg _ same

def ternaryCountdown : NodeDescription where
  signature := .single "dwc0" "a" "b"
  attributes := .ofList [("dataType", .string "TERNARY"), ("inWidth", .int 2),
    ("outWidth", .int 2), ("shape", .ints [7])]
  pattern := some ⟨"sequential", -5, -2, 0⟩

def ternaryConverter : Converter :=
  ⟨.single "dwc0" "a" "b", ⟨⟨[7]⟩, 2, 2, .ternary, none, none, none, none⟩, rfl⟩

theorem generateInput_residues_ternaryCountdown :
    ∃ tensor, ternaryCountdown.generateInput ternaryConverter = .ok (some tensor) ∧
      checkInput ternaryConverter tensor = .ok () ∧
      (∃ n, tensor.data[0]? = some (.ofInt n) ∧ Pattern.StandsFor .ternary (-5) n) ∧
      tensor.data[4]? = tensor.data[1]? := by
  have generated : ternaryCountdown.generateInput ternaryConverter = .ok (some ⟨⟨[7]⟩,
      [.ofInt 1, .ofInt (-1), .ofInt 0, .ofInt 1, .ofInt (-1), .ofInt 0, .ofInt 1],
      .ternary, rfl⟩) := rfl
  have given : ternaryCountdown.pattern = some ⟨"sequential", -5, -2, 0⟩ := rfl
  have exact : ternaryConverter.type.isExact = true := rfl
  obtain ⟨_, holds⟩ := generateInput_residues given rfl exact (by decide)
  obtain ⟨accepted, stands, repeats⟩ := holds _ generated
  refine ⟨_, generated, accepted, ?_, (repeats 1 4 (by decide) (by decide)).2 (by decide)⟩
  obtain ⟨n, found, _, represents⟩ := stands 0 (by decide)
  exact ⟨n, found, represents⟩

end NodeDescription

end StreamWidth
