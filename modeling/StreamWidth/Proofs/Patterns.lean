import StreamWidth.NodeDescription
import StreamWidth.Proofs.Evaluation

/-!
Test inputs that patterns make. Wrapping finds an integer between the bounds of a type, but single
precision may round it up to the next power of two: the last integers of wide types are no values.
-/

namespace StreamWidth

namespace ElementType

open Binary32 (integerLimit)

theorem roundsWithin_of_isExact {type : ElementType} (exact : type.isExact = true) (n : Int) :
    type.RoundsWithin n := by
  cases type with
  | unsigned bits | signed bits => exact Or.inl (of_decide_eq_true exact)
  | _ => trivial

theorem roundsWithin_least (type : ElementType) : type.RoundsWithin type.least := by
  cases type with
  | unsigned bits =>
      by_cases narrow : bits ≤ 24
      · exact Or.inl narrow
      · have step : (2 : Int) ^ (bits - 25) < 2 ^ bits :=
          Int.pow_lt_pow_of_lt (by decide) (by omega)
        exact Or.inr (by simpa [least] using step)
  | signed bits =>
      by_cases narrow : bits ≤ 25
      · exact Or.inl narrow
      · have step : (2 : Int) ^ (bits - 26) < 2 ^ (bits - 1) :=
          Int.pow_lt_pow_of_lt (by decide) (by omega)
        have positive : (0 : Int) < 2 ^ (bits - 1) := Int.pow_pos (by decide)
        refine Or.inr ?_
        simp only [least]
        omega
  | _ => trivial

theorem roundsWithin_greatest_iff (type : ElementType) :
    type.RoundsWithin type.greatest ↔ type.isExact = true := by
  cases type with
  | unsigned bits =>
      have step : (0 : Int) < 2 ^ (bits - 25) := Int.pow_pos (by decide)
      simp only [RoundsWithin, greatest, isExact, decide_eq_true_eq]
      omega
  | signed bits =>
      have step : (0 : Int) < 2 ^ (bits - 26) := Int.pow_pos (by decide)
      simp only [RoundsWithin, greatest, isExact, decide_eq_true_eq]
      omega
  | _ => exact iff_of_true trivial rfl

theorem least_le_greatest (type : ElementType) : type.least ≤ type.greatest := by
  cases type with
  | unsigned bits =>
      have positive : (0 : Int) < 2 ^ bits := Int.pow_pos (by decide)
      simp only [least, greatest]
      omega
  | signed bits =>
      have positive : (0 : Int) < 2 ^ (bits - 1) := Int.pow_pos (by decide)
      simp only [least, greatest]
      omega
  | _ => decide

theorem bounds_of_integral {type : ElementType} (supported : type.isSupported = true)
    (integral : type.isIntegral = true) : -2 ^ 33 < type.least ∧ type.greatest < 2 ^ 33 := by
  have small := (bits_of_supported supported).2
  cases type with
  | bipolar | float32 => simp [isIntegral] at integral
  | unsigned bits =>
      have power : (2 : Int) ^ bits < 2 ^ 33 :=
        Int.pow_lt_pow_of_lt (by decide) (Nat.lt_succ_of_le small)
      simp only [least, greatest]
      omega
  | signed bits =>
      have power : (2 : Int) ^ (bits - 1) < 2 ^ 33 :=
        Int.pow_lt_pow_of_lt (by decide) (Nat.lt_succ_of_le (Nat.le_trans (Nat.sub_le _ _) small))
      simp only [least, greatest]
      omega
  | _ => decide

/-- The integers that would be values of a type if single precision did not round. -/
def Spans (type : ElementType) (n : Int) : Prop :=
  match type with
  | float32 => n.natAbs < integerLimit
  | bipolar => n = 1 ∨ n = -1
  | type => type.least ≤ n ∧ n ≤ type.greatest

theorem legal_ofInt_iff_of_spans {type : ElementType} (supported : type.isSupported = true)
    {n : Int} (within : type.Spans n) : type.Legal (.ofInt n) ↔ type.RoundsWithin n := by
  cases type with
  | float32 =>
      have found := Binary32.toInt?_ofInt within
      exact iff_of_true ((Binary32.toInt?_eq_some_iff _ _).1 found).1 trivial
  | bipolar =>
      refine iff_of_true ?_ trivial
      rcases within with rfl | rfl
      · exact Or.inl (by decide)
      · exact Or.inr (by decide)
  | _ => exact legal_ofInt_iff supported rfl within.1 within.2

end ElementType

namespace Pattern

open ElementType (minimum_eq_least maximum_eq_greatest bounds_of_integral)
open Binary32 (integerLimit)

def wrapped (type : ElementType) (n : Int) : Int :=
  match type with
  | .float32 => n
  | .bipolar => if n % 2 = 0 then -1 else 1
  | type => type.least + (n - type.least) % (type.greatest - type.least + 1)

theorem eq_of_checked {n result : Int} (success : checked n = .ok result) :
    result = n ∧ -2 ^ 63 ≤ result ∧ result < 2 ^ 63 := by
  rw [checked] at success
  split at success
  · rename_i inside
    obtain rfl := Except.ok.inj success
    exact ⟨rfl, inside⟩
  · simp at success

theorem checked_of_bounds {n : Int} (above : -2 ^ 63 ≤ n) (below : n < 2 ^ 63) :
    checked n = .ok n :=
  if_pos ⟨above, below⟩

theorem clamp_of_bounds {n : Int} (above : -2 ^ 63 ≤ n) (below : n < 2 ^ 63) : clamp n = n := by
  have inside {low high : Int} (above : low ≤ n) (below : n < high) :
      max low (min (high - 1) n) = n := by
    omega
  exact inside above below

theorem wrapInto_eq_of_integral {type : ElementType} (integral : type.isIntegral = true)
    (n : Int) : wrapInto type n = (do
      let least := clamp (← type.minimum)
      let span ← checked (clamp (← type.maximum) - least)
      let span ← checked (span + 1)
      let offset ← checked (n - least)
      return .ofInt (least + offset % span)) := by
  -- One equation for all integral types, whose bounds are not evaluated.
  cases type with
  | bipolar | float32 => simp [ElementType.isIntegral] at integral
  | _ => rfl

theorem wrapInto_of_integral {type : ElementType} (supported : type.isSupported = true)
    (integral : type.isIntegral = true) (n : Int) :
    wrapInto type n = checked (n - type.least) >>= fun offset =>
      .ok (.ofInt (type.least + offset % (type.greatest - type.least + 1))) := by
  obtain ⟨above, below⟩ := bounds_of_integral supported integral
  have ordered := type.least_le_greatest
  have least : clamp type.least = type.least := clamp_of_bounds (by omega) (by omega)
  have greatest : clamp type.greatest = type.greatest := clamp_of_bounds (by omega) (by omega)
  have distance : checked (type.greatest - type.least) = .ok (type.greatest - type.least) :=
    checked_of_bounds (by omega) (by omega)
  have span : checked (type.greatest - type.least + 1) = .ok (type.greatest - type.least + 1) :=
    checked_of_bounds (by omega) (by omega)
  -- Only the distance from the least value may still leave 64 bits.
  rw [wrapInto_eq_of_integral integral, minimum_eq_least supported, maximum_eq_greatest supported]
  simp only [bind, Except.bind, pure, Except.pure, least, greatest, distance, span]

theorem eq_of_wrapInto {type : ElementType} (supported : type.isSupported = true) {n : Int}
    {x : Binary32} (success : wrapInto type n = .ok x) : x = .ofInt (wrapped type n) := by
  cases type with
  | float32 | bipolar => exact (Except.ok.inj success).symm
  | _ =>
      rw [wrapInto_of_integral supported rfl, bind_eq_ok_iff] at success
      obtain ⟨offset, inside, same⟩ := success
      rw [(eq_of_checked inside).1] at same
      exact (Except.ok.inj same).symm

theorem wrapped_bounds {least greatest : Int} (ordered : least ≤ greatest) (n : Int) :
    least ≤ least + (n - least) % (greatest - least + 1) ∧
      least + (n - least) % (greatest - least + 1) ≤ greatest := by
  have low := Int.emod_nonneg (n - least) (show greatest - least + 1 ≠ 0 by omega)
  have high := Int.emod_lt_of_pos (n - least) (show 0 < greatest - least + 1 by omega)
  omega

theorem spans_wrapped (type : ElementType) {n : Int} (few : n.natAbs < integerLimit) :
    type.Spans (wrapped type n) := by
  cases type with
  | float32 => exact few
  | bipolar =>
      simp only [wrapped, ElementType.Spans]
      split
      · exact Or.inr rfl
      · exact Or.inl rfl
  | _ => exact wrapped_bounds (ElementType.least_le_greatest _) n

def turns (type : ElementType) : Int × Int :=
  if type = .float32 then (-1, 1) else (type.least, type.greatest)

theorem alternatingPair_eq {type : ElementType} (supported : type.isSupported = true) :
    alternatingPair type = .ok (.ofInt (turns type).1, .ofInt (turns type).2) := by
  by_cases float : type = .float32
  · subst float
    rfl
  · have bounds : alternatingPair type = (do
        return (.ofInt (← type.minimum), .ofInt (← type.maximum))) := by
      cases type with
      | float32 => exact absurd rfl float
      | _ => rfl
    rw [bounds, minimum_eq_least supported, maximum_eq_greatest supported, turns, if_neg float]
    rfl

theorem spans_turns (type : ElementType) :
    type.Spans (turns type).1 ∧ type.Spans (turns type).2 := by
  have ordered := type.least_le_greatest
  cases type with
  | float32 => exact ⟨show 1 < integerLimit by decide, show 1 < integerLimit by decide⟩
  | bipolar => exact ⟨Or.inr rfl, Or.inl rfl⟩
  | _ => exact ⟨⟨Int.le_refl _, ordered⟩, ordered, Int.le_refl _⟩

theorem roundsWithin_turns (type : ElementType) :
    type.RoundsWithin (turns type).1 ∧
      (type.RoundsWithin (turns type).2 ↔ type.isExact = true) := by
  by_cases float : type = .float32
  · subst float
    exact ⟨trivial, iff_of_true trivial rfl⟩
  · rw [turns, if_neg float]
    exact ⟨type.roundsWithin_least, type.roundsWithin_greatest_iff⟩

/-- The integer at an index of a pattern, as it stands in a type. -/
def integerAt (pattern : Pattern) (type : ElementType) (index : Nat) : Int :=
  if pattern.kind = "sequential" then wrapped type (pattern.start + index * pattern.step)
  else if pattern.kind = "constant" then pattern.value
  else if index % 2 = 0 then (turns type).1
  else (turns type).2

def elementsOf (pattern : Pattern) (type : ElementType) (count : Nat) : List Binary32 :=
  (List.range count).map fun index => .ofInt (pattern.integerAt type index)

theorem integerAt_alternating {pattern : Pattern} (sequence : pattern.kind ≠ "sequential")
    (same : pattern.kind ≠ "constant") (type : ElementType) (index : Nat) :
    pattern.integerAt type index =
      if index % 2 = 0 then (turns type).1 else (turns type).2 := by
  rw [integerAt, if_neg sequence, if_neg same]

theorem roundsWithin_alternating_iff {pattern : Pattern} (alternates : pattern.kind = "alternating")
    (type : ElementType) (count : Nat) :
    (∀ index < count, type.RoundsWithin (pattern.integerAt type index)) ↔
      count ≤ 1 ∨ type.isExact = true := by
  have value (index : Nat) : pattern.integerAt type index = _ :=
    integerAt_alternating (by simp [alternates]) (by simp [alternates]) type index
  obtain ⟨first, second⟩ := roundsWithin_turns type
  constructor
  · intro every
    by_cases few : count ≤ 1
    · exact Or.inl few
    · have odd := every 1 (by omega)
      rw [value] at odd
      exact Or.inr (second.1 odd)
  · rintro (few | exact) index bound
    · rw [show index = 0 by omega, value]
      exact first
    · exact ElementType.roundsWithin_of_isExact exact _

theorem eq_of_sequenceValue {pattern : Pattern} {index : Nat} {n : Int}
    (success : pattern.sequenceValue index = .ok n) :
    n = pattern.start + index * pattern.step ∧ n.natAbs < integerLimit := by
  rw [sequenceValue, bind_eq_ok_iff] at success
  obtain ⟨advance, advanced, summed⟩ := success
  obtain ⟨rfl, above, below⟩ := eq_of_checked summed
  have limit : 2 ^ 63 < integerLimit := by decide
  exact ⟨by rw [(eq_of_checked advanced).1], by omega⟩

theorem eq_of_sequential {pattern : Pattern} {type : ElementType}
    (supported : type.isSupported = true) {count : Nat} {data : List Binary32}
    (success : pattern.sequential type count = .ok data) :
    data = (List.range count).map (fun index =>
        .ofInt (wrapped type (pattern.start + index * pattern.step))) ∧
      ∀ index < count, type.Spans (wrapped type (pattern.start + index * pattern.step)) := by
  rw [sequential, bind_eq_ok_iff] at success
  obtain ⟨_, _, made⟩ := success
  -- The whole list succeeds, so every step did, and each element is known.
  have each : ∀ index ∈ List.range count,
      (do wrapInto type (← pattern.sequenceValue index)) =
        .ok (.ofInt (wrapped type (pattern.start + index * pattern.step))) ∧
      type.Spans (wrapped type (pattern.start + index * pattern.step)) := by
    intro index member
    obtain ⟨x, found⟩ := forall_of_mapM made index member
    have steps := found
    rw [bind_eq_ok_iff] at steps
    obtain ⟨n, reached, wraps⟩ := steps
    obtain ⟨rfl, few⟩ := eq_of_sequenceValue reached
    exact ⟨eq_of_wrapInto supported wraps ▸ found, spans_wrapped type few⟩
  rw [mapM_eq_ok _ fun index member => (each index member).1] at made
  exact ⟨(Except.ok.inj made).symm, fun index bound => (each index (List.mem_range.2 bound)).2⟩

theorem eq_of_constant {pattern : Pattern} {type : ElementType}
    (supported : type.isSupported = true) {count : Nat} {data : List Binary32}
    (success : pattern.constant type count = .ok data) :
    data = List.replicate count (.ofInt pattern.value) ∧ type.Legal (.ofInt pattern.value) := by
  obtain ⟨accepted, decided, legal⟩ :=
    ElementType.accepts_eq_ok supported (Binary32.ofInt pattern.value)
  rw [constant, decided] at success
  cases accepted with
  | false => exact absurd success (by simp [bind, Except.bind])
  | true =>
      obtain ⟨_, _, filled⟩ :=
        bind_eq_ok_iff.1 (show checkCapacity count >>= _ = Except.ok data from success)
      exact ⟨(Except.ok.inj filled).symm, legal.1 rfl⟩

theorem eq_of_alternating {type : ElementType} (supported : type.isSupported = true) {count : Nat}
    {data : List Binary32} (success : alternating type count = .ok data) :
    data = (List.range count).map fun index =>
      .ofInt (if index % 2 = 0 then (turns type).1 else (turns type).2) := by
  rw [alternating, alternatingPair_eq supported] at success
  obtain ⟨_, _, made⟩ :=
    bind_eq_ok_iff.1 (show checkCapacity count >>= _ = Except.ok data from success)
  simp only [apply_ite Binary32.ofInt]
  exact (Except.ok.inj made).symm

theorem eq_of_elements {pattern : Pattern} {type : ElementType}
    (supported : type.isSupported = true) {count : Nat} {data : List Binary32}
    (success : pattern.elements type count = .ok data) :
    data = pattern.elementsOf type count ∧
      if pattern.kind = "constant" then type.Legal (.ofInt pattern.value)
      else ∀ index < count, type.Spans (pattern.integerAt type index) := by
  by_cases sequence : pattern.kind = "sequential"
  · have different : pattern.kind ≠ "constant" := by simp [sequence]
    have value (index : Nat) : pattern.integerAt type index = _ := if_pos sequence
    rw [elements, if_pos sequence] at success
    simp only [elementsOf, value, different, ↓reduceIte]
    exact eq_of_sequential supported success
  · rw [elements, if_neg sequence] at success
    by_cases same : pattern.kind = "constant"
    · have value (index : Nat) : pattern.integerAt type index = pattern.value := by
        rw [integerAt, if_neg sequence, if_pos same]
      rw [if_pos same] at success ⊢
      obtain ⟨rfl, legal⟩ := eq_of_constant supported success
      simp only [elementsOf, value, List.map_const', List.length_range]
      exact ⟨trivial, legal⟩
    · rw [if_neg same] at success ⊢
      split at success
      · simp only [elementsOf, integerAt_alternating sequence same]
        refine ⟨eq_of_alternating supported success, fun index _ => ?_⟩
        split
        · exact (spans_turns type).1
        · exact (spans_turns type).2
      · simp at success

theorem eq_of_generate {pattern : Pattern} {converter : Converter} {tensor : Tensor}
    (success : pattern.generate converter = .ok tensor) :
    tensor.shape = converter.shape ∧ tensor.type = converter.type ∧
      pattern.elements converter.type converter.shape.elementCount = .ok tensor.data := by
  obtain ⟨data, made, filled⟩ := bind_eq_ok_iff.1 success
  obtain ⟨shape, type, rfl⟩ := (Tensor.new_eq_ok_iff _ _ _ _).1 filled
  exact ⟨shape, type, made⟩

theorem legal_elementsOf_iff {pattern : Pattern} {type : ElementType}
    (supported : type.isSupported = true) {count : Nat} {data : List Binary32}
    (success : pattern.elements type count = .ok data) :
    (∀ x ∈ data, type.Legal x) ↔ pattern.kind = "constant" ∨
      ∀ index < count, type.RoundsWithin (pattern.integerAt type index) := by
  obtain ⟨rfl, within⟩ := eq_of_elements supported success
  by_cases same : pattern.kind = "constant"
  · rw [if_pos same] at within
    refine iff_of_true (List.forall_mem_map.2 fun index _ => ?_) (Or.inl same)
    have different : pattern.kind ≠ "sequential" := by simp [same]
    rwa [integerAt, if_neg different, if_pos same]
  · rw [if_neg same] at within
    rw [or_iff_right same, elementsOf, List.forall_mem_map]
    refine forall_congr' fun index => ?_
    rw [List.mem_range]
    exact imp_congr_right fun bound =>
      ElementType.legal_ofInt_iff_of_spans supported (within index bound)

end Pattern

namespace NodeDescription

variable {description : NodeDescription} {pattern : Pattern} {converter : Converter}
  {tensor : Tensor}

theorem generateInput_eq_ok_iff (given : description.pattern = some pattern) :
    description.generateInput converter = .ok (some tensor) ↔
      pattern.generate converter = .ok tensor := by
  simp only [generateInput, given]
  cases pattern.generate converter <;> simp [Except.map]

theorem checkInput_iff_legal (success : pattern.generate converter = .ok tensor) :
    checkInput converter tensor = .ok () ↔ ∀ x ∈ tensor.data, converter.type.Legal x := by
  obtain ⟨shape, type, _⟩ := Pattern.eq_of_generate success
  rw [checkInput_eq_ok_iff, and_iff_right shape, and_iff_right type,
    Tensor.firstDisallowed_eq_none_iff_legal (type ▸ converter.supported), type]

/-- The input that a pattern makes holds the integers of the pattern. A converter refuses it exactly
when single precision rounds one of them out of the type, which happens in no narrow type, and in a
wide one as soon as its bounds take turns. -/
theorem generateInput_checkInput_iff (given : description.pattern = some pattern)
    (generated : description.generateInput converter = .ok (some tensor)) :
    tensor.shape = converter.shape ∧ tensor.type = converter.type ∧
      tensor.data = pattern.elementsOf converter.type converter.shape.elementCount ∧
      (checkInput converter tensor = .ok () ↔
        pattern.kind = "constant" ∨ ∀ index < converter.shape.elementCount,
          converter.type.RoundsWithin (pattern.integerAt converter.type index)) ∧
      (converter.type.isExact = true → checkInput converter tensor = .ok ()) ∧
      (pattern.kind = "alternating" → (checkInput converter tensor = .ok () ↔
        converter.shape.elementCount ≤ 1 ∨ converter.type.isExact = true)) := by
  have success := (generateInput_eq_ok_iff given).1 generated
  obtain ⟨shape, type, made⟩ := Pattern.eq_of_generate success
  have allowed := (checkInput_iff_legal success).trans
    (Pattern.legal_elementsOf_iff converter.supported made)
  refine ⟨shape, type, (Pattern.eq_of_elements converter.supported made).1, allowed,
    fun exact => allowed.2 (Or.inr fun _ _ => ElementType.roundsWithin_of_isExact exact _),
    fun alternates => ?_⟩
  rw [allowed, or_iff_right (by simp [alternates]), Pattern.roundsWithin_alternating_iff alternates]

def sequence25 (count start step : Int) : NodeDescription where
  signature := .single "dwc0" "a" "b"
  attributes := .ofList [("dataType", .string "UINT25"), ("inWidth", .int 25),
    ("outWidth", .int 25), ("shape", .ints [count])]
  pattern := some ⟨"sequential", start, step, 0⟩

def converter25 (count : Nat)
    (accepted : (Attributes.mk ⟨[count]⟩ 25 25 (.unsigned 25) none none none none).check = .ok ()) :
    Converter :=
  ⟨.single "dwc0" "a" "b", _, accepted⟩

theorem generateInput_checkInput_iff_sequence25 :
    (∃ tensor, (sequence25 2 33554429 1).generateInput (converter25 2 rfl) = .ok (some tensor) ∧
      checkInput (converter25 2 rfl) tensor = .ok ()) ∧
    ∃ tensor, (sequence25 3 33554429 1).generateInput (converter25 3 rfl) = .ok (some tensor) ∧
      checkInput (converter25 3 rfl) tensor ≠ .ok () := by
  have two : (sequence25 2 33554429 1).generateInput (converter25 2 rfl) =
      .ok (some ⟨⟨[2]⟩, [.ofInt 33554429, .ofInt 33554430], .unsigned 25, rfl⟩) := rfl
  have three : (sequence25 3 33554429 1).generateInput (converter25 3 rfl) =
      .ok (some ⟨⟨[3]⟩, [.ofInt 33554429, .ofInt 33554430, .ofInt 33554431], .unsigned 25, rfl⟩) :=
    rfl
  obtain ⟨_, _, _, twoAllowed, _⟩ := generateInput_checkInput_iff rfl two
  obtain ⟨_, _, _, threeAllowed, _⟩ := generateInput_checkInput_iff rfl three
  refine ⟨⟨_, two, twoAllowed.2 (by decide)⟩, _, three, fun accepted => ?_⟩
  exact absurd (threeAllowed.1 accepted) (by decide)

/-- The last integer of 25 bits is made of itself, and is not taken for an input. -/
theorem generateInput_refused :
    ¬∀ (description : NodeDescription) (converter : Converter) (tensor : Tensor),
      description.build = .ok converter → description.generateInput converter = .ok (some tensor) →
      checkInput converter tensor = .ok () := by
  intro claim
  have accepted := claim (sequence25 1 33554431 0) (converter25 1 rfl)
    ⟨⟨[1]⟩, [.ofInt 33554431], .unsigned 25, rfl⟩ rfl rfl
  obtain ⟨_, _, legal⟩ := (checkInput_eq_ok_iff _ _).1 accepted
  have refused : ElementType.accepts (.unsigned 25) (.ofInt 33554431) = .ok false := rfl
  rw [Tensor.firstDisallowed_eq_none_iff] at legal
  simpa [refused] using legal (.ofInt 33554431) List.mem_cons_self

end NodeDescription

end StreamWidth
