import StreamWidth.Proofs.Patterns

/-!
Sequences and the range of 64-bit integers. Each element of a sequence takes three steps of checked
arithmetic. The steps of all elements stay in range exactly if those of the first and of the last
one do, and nothing else that makes a test input can leave it.
-/

namespace StreamWidth

theorem mapM_eq_error_iff {α β : Type} {change : α → Except Failure β} {failure : Failure}
    (items : List α)
    (each : ∀ item ∈ items, (∃ result, change item = .ok result) ∨ change item = .error failure) :
    (items.mapM change = .error failure ↔ ∃ item ∈ items, change item = .error failure) ∧
      ((∃ results, items.mapM change = .ok results) ∨ items.mapM change = .error failure) := by
  rcases mapM_cases change items with ⟨results, success⟩ | ⟨item, member, other, failed, stopped⟩
  · refine ⟨iff_of_false (by simp [success]) ?_, Or.inl ⟨results, success⟩⟩
    rintro ⟨item, member, failed⟩
    obtain ⟨result, found⟩ := forall_of_mapM success item member
    simp [found] at failed
  · obtain rfl : other = failure := by
      rcases each item member with ⟨result, found⟩ | same
      · simp [found] at failed
      · exact Except.error.inj (failed.symm.trans same)
    exact ⟨iff_of_true stopped ⟨item, member, failed⟩, Or.inr stopped⟩

namespace Pattern

open ElementType (minimum_eq_least)

def InRange (n : Int) : Prop :=
  -2 ^ 63 ≤ n ∧ n < 2 ^ 63

instance (n : Int) : Decidable (InRange n) :=
  inferInstanceAs (Decidable (_ ∧ _))

theorem InRange.between {low high n : Int} (lowInside : InRange low) (highInside : InRange high)
    (above : low ≤ n) (below : n ≤ high) : InRange n :=
  ⟨Int.le_trans lowInside.1 above, Int.lt_of_le_of_lt below highInside.2⟩

theorem checked_cases (n : Int) :
    InRange n ∧ checked n = .ok n ∨
      ¬InRange n ∧ checked n = .error (.fault .integerOverflow) := by
  by_cases inside : InRange n
  · exact Or.inl ⟨inside, if_pos inside⟩
  · exact Or.inr ⟨inside, if_neg inside⟩

/-- The three steps that make an element: how far the sequence has advanced, where that is, and for
a type of integers how far it is from the least of them. -/
structure Reaches (pattern : Pattern) (type : ElementType) (index : Nat) : Prop where
  advance : InRange (index * pattern.step)
  position : InRange (pattern.start + index * pattern.step)
  distance : type.isIntegral = true →
    InRange (pattern.start + index * pattern.step - type.least)

theorem wrapInto_cases {type : ElementType} (supported : type.isSupported = true) (n : Int) :
    (type.isIntegral = true → InRange (n - type.least)) ∧ (∃ x, wrapInto type n = .ok x) ∨
      ¬(type.isIntegral = true → InRange (n - type.least)) ∧
        wrapInto type n = .error (.fault .integerOverflow) := by
  by_cases integral : type.isIntegral = true
  · rw [wrapInto_of_integral supported integral]
    rcases checked_cases (n - type.least) with ⟨inside, success⟩ | ⟨outside, failed⟩
    · exact Or.inl ⟨fun _ => inside, _, by rw [success]; rfl⟩
    · exact Or.inr ⟨fun every => outside (every integral), by rw [failed]; rfl⟩
  · refine Or.inl ⟨fun holds => absurd holds integral, ?_⟩
    cases type with
    | float32 | bipolar => exact ⟨_, rfl⟩
    | _ => simp [ElementType.isIntegral] at integral

theorem element_cases {type : ElementType} (supported : type.isSupported = true)
    (pattern : Pattern) (index : Nat) :
    pattern.Reaches type index ∧
        (∃ x, (do wrapInto type (← pattern.sequenceValue index)) = Except.ok x) ∨
      ¬pattern.Reaches type index ∧
        (do wrapInto type (← pattern.sequenceValue index)) =
          Except.error (.fault .integerOverflow) := by
  rw [sequenceValue]
  rcases checked_cases (index * pattern.step) with ⟨advance, success⟩ | ⟨outside, failed⟩
  · rcases checked_cases (pattern.start + index * pattern.step) with
      ⟨position, reached⟩ | ⟨outside, failed⟩
    · simp only [success, reached, bind, Except.bind]
      rcases wrapInto_cases supported (pattern.start + index * pattern.step) with
        ⟨distance, wraps⟩ | ⟨outside, failed⟩
      · exact Or.inl ⟨⟨advance, position, distance⟩, wraps⟩
      · exact Or.inr ⟨fun reaches => outside reaches.distance, failed⟩
    · simp only [success, failed, bind, Except.bind]
      exact Or.inr ⟨fun reaches => outside reaches.position, trivial⟩
  · simp only [failed, bind, Except.bind]
    exact Or.inr ⟨fun reaches => outside reaches.advance, trivial⟩

theorem advance_between (step : Int) {index last : Nat} (before : index ≤ last) :
    0 ≤ index * step ∧ index * step ≤ last * step ∨
      last * step ≤ index * step ∧ index * step ≤ 0 := by
  have count : (index : Int) ≤ last := Int.ofNat_le.2 before
  have natural : (0 : Int) ≤ index := Int.natCast_nonneg index
  rcases Int.le_total 0 step with rises | falls
  · exact Or.inl ⟨Int.mul_nonneg natural rises, Int.mul_le_mul_of_nonneg_right count rises⟩
  · exact Or.inr ⟨Int.mul_le_mul_of_nonpos_right count falls,
      Int.mul_nonpos_of_nonneg_of_nonpos natural falls⟩

theorem Reaches.between {pattern : Pattern} {type : ElementType} {index last : Nat}
    (first : pattern.Reaches type 0) (final : pattern.Reaches type last) (before : index ≤ last) :
    pattern.Reaches type index := by
  obtain ⟨_, start, startDistance⟩ := first
  obtain ⟨advance, position, distance⟩ := final
  have zero : ((0 : Nat) : Int) * pattern.step = 0 := Int.zero_mul _
  rw [zero, Int.add_zero] at start startDistance
  have origin : InRange 0 := by decide
  -- On its way to the last element a sequence passes no integer beyond its ends.
  rcases advance_between pattern.step before with ⟨above, below⟩ | ⟨above, below⟩
  · exact ⟨origin.between advance above below, start.between position (by omega) (by omega),
      fun integral => (startDistance integral).between (distance integral) (by omega) (by omega)⟩
  · exact ⟨advance.between origin above below, position.between start (by omega) (by omega),
      fun integral => (distance integral).between (startDistance integral) (by omega) (by omega)⟩

/-- A sequence that leaves 64 bits at its first or at its last element. -/
def Overflows (pattern : Pattern) (type : ElementType) (count : Nat) : Prop :=
  0 < count ∧ ¬(pattern.Reaches type 0 ∧ pattern.Reaches type (count - 1))

theorem overflows_iff (pattern : Pattern) (type : ElementType) (count : Nat) :
    pattern.Overflows type count ↔ ∃ index < count, ¬pattern.Reaches type index := by
  constructor
  · rintro ⟨positive, ends⟩
    by_cases first : pattern.Reaches type 0
    · exact ⟨count - 1, by omega, fun final => ends ⟨first, final⟩⟩
    · exact ⟨0, positive, first⟩
  · rintro ⟨index, bound, outside⟩
    exact ⟨by omega, fun ends => outside (ends.1.between ends.2 (by omega))⟩

theorem sequential_cases {type : ElementType} (supported : type.isSupported = true)
    (pattern : Pattern) {count : Nat} (few : count < Tensor.capacity) :
    ¬pattern.Overflows type count ∧ (∃ data, pattern.sequential type count = .ok data) ∨
      pattern.Overflows type count ∧
        pattern.sequential type count = .error (.fault .integerOverflow) := by
  have made : pattern.sequential type count =
      (List.range count).mapM fun index => (do wrapInto type (← pattern.sequenceValue index)) := by
    rw [sequential, checkCapacity, if_pos few]
    rfl
  have each (index : Nat) := element_cases supported pattern index
  obtain ⟨fails, decided⟩ := mapM_eq_error_iff (List.range count) fun index _ =>
    (each index).imp And.right And.right
  have outside : pattern.Overflows type count ↔ ∃ index ∈ List.range count,
      (do wrapInto type (← pattern.sequenceValue index)) =
        Except.error (.fault .integerOverflow) := by
    rw [overflows_iff]
    refine exists_congr fun index => and_congr List.mem_range.symm ?_
    rcases each index with ⟨reaches, x, success⟩ | ⟨outside, failed⟩
    · exact iff_of_false (fun outside => outside reaches) (by rw [success]; simp)
    · exact iff_of_true outside failed
  rw [made, outside, ← fails]
  rcases decided with ⟨data, success⟩ | failed
  · exact Or.inl ⟨by simp [success], data, success⟩
  · exact Or.inr ⟨failed, failed⟩

theorem exists_sequential_iff {type : ElementType} (supported : type.isSupported = true)
    (pattern : Pattern) (count : Nat) :
    (∃ data, pattern.sequential type count = .ok data) ↔
      count < Tensor.capacity ∧ ∀ index < count, pattern.Reaches type index := by
  by_cases few : count < Tensor.capacity
  · have inside : (∀ index < count, pattern.Reaches type index) ↔
        ¬pattern.Overflows type count := by
      rw [overflows_iff]
      simp
    rw [and_iff_right few, inside]
    rcases sequential_cases supported pattern few with ⟨every, success⟩ | ⟨outside, failed⟩
    · exact iff_of_true success every
    · exact iff_of_false (by simp [failed]) fun every => every outside
  · refine iff_of_false ?_ fun both => few both.1
    rintro ⟨data, success⟩
    rw [sequential, checkCapacity, if_neg few] at success
    simp [bind, Except.bind] at success

theorem constant_ne_fault {type : ElementType} (supported : type.isSupported = true)
    (pattern : Pattern) {count : Nat} (few : count < Tensor.capacity) (cause : Fault) :
    pattern.constant type count ≠ .error (.fault cause) := by
  obtain ⟨accepted, decided, _⟩ :=
    ElementType.accepts_eq_ok supported (Binary32.ofInt pattern.value)
  rw [constant, decided, checkCapacity, if_pos few]
  cases accepted with
  | false => exact fun failed => Failure.noConfusion (Except.error.inj failed)
  | true => simp [bind, Except.bind, pure, Except.pure]

theorem alternating_ne_fault {type : ElementType} (supported : type.isSupported = true)
    {count : Nat} (few : count < Tensor.capacity) (cause : Fault) :
    alternating type count ≠ .error (.fault cause) := by
  rw [alternating, alternatingPair_eq supported, checkCapacity, if_pos few]
  simp [bind, Except.bind, pure, Except.pure]

theorem elements_fault_iff {type : ElementType} (supported : type.isSupported = true)
    (pattern : Pattern) {count : Nat} (few : count < Tensor.capacity) (cause : Fault) :
    pattern.elements type count = .error (.fault cause) ↔
      cause = .integerOverflow ∧ pattern.kind = "sequential" ∧ pattern.Overflows type count := by
  rw [elements]
  split
  · rename_i sequence
    rcases sequential_cases supported pattern few with ⟨inside, data, success⟩ | ⟨outside, failed⟩
    · simp [success, inside]
    · simp [failed, outside, sequence, eq_comm]
  · rename_i different
    refine iff_of_false ?_ fun overflow => different overflow.2.1
    split
    · exact constant_ne_fault supported pattern few cause
    · split
      · exact alternating_ne_fault supported few cause
      · simp

theorem generate_fault_iff (pattern : Pattern) (converter : Converter)
    (few : converter.shape.elementCount < Tensor.capacity) (cause : Fault) :
    pattern.generate converter = .error (.fault cause) ↔
      cause = .integerOverflow ∧ pattern.kind = "sequential" ∧
        pattern.Overflows converter.type converter.shape.elementCount := by
  rw [← elements_fault_iff converter.supported pattern few, generate]
  cases made : pattern.elements converter.type converter.shape.elementCount with
  | error failure => simp [bind, Except.bind]
  | ok data =>
      obtain ⟨rfl, _⟩ := eq_of_elements converter.supported made
      simp [Tensor.new, elementsOf, bind, Except.bind]

theorem exists_generate_iff (pattern : Pattern) (converter : Converter) :
    (∃ tensor, pattern.generate converter = .ok tensor) ↔
      ∃ data, pattern.elements converter.type converter.shape.elementCount = .ok data := by
  constructor
  · rintro ⟨tensor, success⟩
    exact ⟨_, (eq_of_generate success).2.2⟩
  · rintro ⟨data, made⟩
    have filled : data.length = converter.shape.elementCount := by
      obtain ⟨rfl, _⟩ := eq_of_elements converter.supported made
      simp [elementsOf]
    exact ⟨⟨_, data, _, filled⟩, by rw [generate, made]; exact dif_pos filled⟩

end Pattern

namespace NodeDescription

/-- The one fault of making a test input is a sequence that leaves 64 bits at one of its ends. -/
theorem generateInput_fault_iff (description : NodeDescription) (converter : Converter)
    (few : converter.shape.elementCount < Tensor.capacity) (cause : Fault) :
    description.generateInput converter = .error (.fault cause) ↔
      cause = .integerOverflow ∧ ∃ pattern, description.pattern = some pattern ∧
        pattern.kind = "sequential" ∧
        pattern.Overflows converter.type converter.shape.elementCount := by
  rw [generateInput]
  cases description.pattern with
  | none => simp
  | some pattern =>
      have passed : (pattern.generate converter).map some = .error (.fault cause) ↔
          pattern.generate converter = .error (.fault cause) := by
        cases pattern.generate converter <;> simp [Except.map]
      simp only [passed, pattern.generate_fault_iff converter few, Option.some.injEq,
        exists_eq_left']

theorem generateInput_fault_iff_greatest :
    (sequence25 2 (2 ^ 63 - 2) 1).generateInput (converter25 2 rfl) ≠
        .error (.fault .integerOverflow) ∧
      (sequence25 2 (2 ^ 63 - 1) 1).generateInput (converter25 2 rfl) =
        .error (.fault .integerOverflow) := by
  have few : (converter25 2 rfl).shape.elementCount < Tensor.capacity := by decide
  constructor
  · intro overflow
    obtain ⟨_, _, given, _, _, outside⟩ := (generateInput_fault_iff _ _ few _).1 overflow
    obtain rfl := Option.some.inj given
    refine outside ⟨⟨?_, ?_, fun _ => ?_⟩, ⟨?_, ?_, fun _ => ?_⟩⟩ <;> decide
  · refine (generateInput_fault_iff _ _ few _).2 ⟨rfl, _, rfl, rfl, by decide, fun ends => ?_⟩
    exact absurd ends.2.position (by decide)

theorem generateInput_faults :
    ¬∀ (description : NodeDescription) (converter : Converter) (cause : Fault),
      description.build = .ok converter → converter.shape.elementCount < Tensor.capacity →
      description.generateInput converter ≠ .error (.fault cause) := by
  intro claim
  exact claim (sequence25 2 (2 ^ 63 - 1) 1) (converter25 2 rfl) .integerOverflow rfl (by decide) rfl

end NodeDescription

end StreamWidth
