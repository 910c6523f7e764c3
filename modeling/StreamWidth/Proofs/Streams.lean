import StreamWidth.Proofs.RoundTrip

/-!
Words and the tensors they carry. Where single precision has all integers of a type, the words of a
stream are found again from the tensor that is read from them: legal tensors and words that hold
codes of values stand for each other, and of a tensor only the sign of a zero is left out.
-/

namespace StreamWidth.Tensor

open BitStream (lowBits toWords ofWords numbers)

variable {type : ElementType} {shape : Shape} {width channels : Nat} {tensor : Tensor}

theorem map_received_eq_iff (type : ElementType) (left : List Binary32) : ∀ right : List Binary32,
    (∀ x ∈ left, x.isFinite = true) → (∀ y ∈ right, y.isFinite = true) →
    (left.map type.received = right.map type.received ↔
      left.length = right.length ∧
        ((left.zip right).all fun pair => pair.1.sameNumber pair.2) = true ∧
        (type = .float32 → left = right)) := by
  induction left with
  | nil =>
      intro right _ _
      cases right <;> simp
  | cons x rest ih =>
      intro right finite otherFinite
      cases right with
      | nil => simp
      | cons y others =>
          obtain ⟨xFinite, restFinite⟩ := List.forall_mem_cons.1 finite
          obtain ⟨yFinite, othersFinite⟩ := List.forall_mem_cons.1 otherFinite
          simp only [List.map_cons, List.cons.injEq, type.received_eq_iff xFinite yFinite,
            ih others restFinite othersFinite, List.length_cons, Nat.add_right_cancel_iff,
            List.zip_cons_cons, List.all_cons, Bool.and_eq_true]
          grind

structure IsLegal (type : ElementType) (shape : Shape) (tensor : Tensor) : Prop where
  sameShape : tensor.shape = shape
  sameType : tensor.type = type
  allowed : ∀ x ∈ tensor.data, type.accepts x = .ok true

/-- Words of one width that fill a folded shape, and whose fields are codes of values. -/
structure Carries (type : ElementType) (width : Nat) (folded : Shape) (words : List Word) :
    Prop where
  count : words.length = folded.outerCount
  uniform : ∀ word ∈ words, word.width = width
  valued : ∀ word ∈ words, ∀ index code,
    word.field (index * type.storageBits) type.storageBits = .ok code → type.hasValue code = true

theorem IsLegal.sendable (legal : IsLegal type shape tensor) (supported : type.isSupported = true)
    (countable : Shape.product shape.dims ≤ Shape.countLimit) : Sendable tensor := by
  obtain ⟨rfl, rfl, allowed⟩ := legal
  exact ⟨supported, (firstDisallowed_eq_none_iff tensor).2 allowed, countable⟩

theorem IsLegal.finite (legal : IsLegal type shape tensor) (supported : type.isSupported = true) :
    ∀ x ∈ tensor.data, x.isFinite = true :=
  fun x member => ElementType.isFinite_of_legal
    ((ElementType.accepts_eq_true_iff supported x).1 (legal.allowed x member))

theorem received_eq_iff {left right : Tensor} (supported : type.isSupported = true)
    (leftLegal : IsLegal type shape left) (rightLegal : IsLegal type shape right) :
    left.received = right.received ↔
      left.sameNumbers right = true ∧ (type = .float32 → left = right) := by
  have leftFinite := leftLegal.finite supported
  have rightFinite := rightLegal.finite supported
  obtain ⟨leftShape, leftData, leftType, _⟩ := left
  obtain ⟨rightShape, rightData, rightType, _⟩ := right
  obtain rfl : leftShape = shape := leftLegal.sameShape
  obtain rfl : leftType = type := leftLegal.sameType
  obtain rfl : leftShape = rightShape := rightLegal.sameShape.symm
  obtain rfl : leftType = rightType := rightLegal.sameType.symm
  have same := map_received_eq_iff leftType leftData rightData leftFinite rightFinite
  simp only [received, map, sameNumbers, mk.injEq, true_and, and_true, beq_self_eq_true,
    Bool.true_and, Bool.and_eq_true, beq_iff_eq]
  rw [same, and_assoc]

section

variable (supported : type.isSupported = true)
  (folds : Shape.Folds shape width type.storageBits channels)
  (countable : Shape.product shape.dims ≤ Shape.countLimit)

include supported folds

theorem hasValue_iff_of_fields {words : List Word} (uniform : ∀ word ∈ words, word.width = width) :
    (∀ word ∈ words, ∀ index code,
        word.field (index * type.storageBits) type.storageBits = .ok code →
          type.hasValue code = true) ↔
      ∀ code ∈ numbers type.storageBits (ofWords words), type.hasValue code = true := by
  have short := ElementType.storageBits_short supported
  have read := mem_numbers_iff short folds.bitsPositive words fun word member =>
    folds.perWord_mul.trans (uniform word member).symm
  constructor
  · intro valued code member
    obtain ⟨word, present, index, found⟩ := (read code).1 member
    exact valued word present index code found
  · intro valued word present index code found
    exact valued code ((read code).2 ⟨word, present, index, found⟩)

include countable

/-- What is read from words that hold codes of values is legal, and becomes these words again. -/
theorem pack_of_carries (exact : type.isExact = true) {words : List Word}
    (carries : Carries type width (shape.splitLast channels (width / type.storageBits)) words) :
    ∃ tensor, unpack words type width shape = .ok tensor ∧ IsLegal type shape tensor ∧
      tensor.pack width = .ok words := by
  have short := ElementType.storageBits_short supported
  obtain ⟨count, uniform, valued⟩ := carries
  obtain ⟨tensor, unpacked⟩ := exists_unpack_eq_ok short folds countable words count uniform
  obtain ⟨_, _, rfl, rfl, decoded⟩ := (unpack_eq_ok_iff short folds words tensor).1 unpacked
  have legal := (firstDisallowed_eq_none_iff_hasValue supported decoded).2
    ((hasValue_iff_of_fields supported folds uniform).1 valued)
  have sendable : Sendable tensor := ⟨supported, legal, countable⟩
  have whole : tensor.type.storageBits ∣ (ofWords words).length := by
    rw [BitStream.ofWords_length width words uniform]
    exact Nat.dvd_trans folds.divides (Nat.dvd_mul_left _ _)
  -- The elements have the codes that they were read from, so the stream is the same again.
  have coded : (numbers tensor.type.storageBits (ofWords words)).map
      (tensor.type.elementBits ∘ tensor.type.ofElementCode) =
        (numbers tensor.type.storageBits (ofWords words)).map (lowBits tensor.type.storageBits) := by
    apply List.map_congr_left
    intro code member
    rw [Function.comp_apply, ElementType.elementBits, ElementType.elementCode_ofElementCode
      supported exact (BitStream.lt_of_mem_numbers member)]
  have stream : tensor.bits = ofWords words := by
    rw [bits, decoded, List.map_map, coded]
    exact BitStream.lowBits_numbers _ _ whole
  refine ⟨tensor, unpacked, ⟨rfl, rfl, (firstDisallowed_eq_none_iff tensor).1 legal⟩, ?_⟩
  rw [sendable.pack_eq folds, stream, BitStream.toWords_ofWords width folds.widthPositive words
    uniform]

theorem carries_of_pack (legal : IsLegal type shape tensor) :
    ∃ words, tensor.pack width = .ok words ∧
      Carries type width (shape.splitLast channels (width / type.storageBits)) words ∧
      unpack words type width shape = .ok tensor.received := by
  have sendable := legal.sendable supported countable
  obtain ⟨rfl, rfl, allowed⟩ := legal
  have uniform : ∀ word ∈ toWords width tensor.bits, word.width = width :=
    fun word member => BitStream.width_of_mem_toWords member
  refine ⟨toWords width tensor.bits, sendable.pack_eq folds,
    ⟨length_toWords folds sendable.countable, uniform, ?_⟩, sendable.unpack_eq folds⟩
  rw [hasValue_iff_of_fields supported folds uniform,
    ofWords_toWords_bits folds sendable.countable, numbers_bits folds.bitsPositive,
    List.forall_mem_map]
  intro x member
  have valued := sendable.legalValues x member
  rw [← ElementType.legal_ofElementCode_iff supported (tensor.type.elementCode_lt x),
    ElementType.ofElementCode_elementCode supported valued]
  exact ElementType.legal_received valued

theorem pack_eq_pack_iff (exact : type.isExact = true) {left right : Tensor}
    (leftLegal : IsLegal type shape left) (rightLegal : IsLegal type shape right) :
    left.pack width = right.pack width ↔ left.received = right.received := by
  -- The words of a tensor are those of what arrives, since they are found again from it.
  have words_of_received {tensor : Tensor} (legal : IsLegal type shape tensor) :
      ∃ words, tensor.pack width = .ok words ∧ tensor.received.pack width = .ok words ∧
        unpack words type width shape = .ok tensor.received := by
    obtain ⟨words, packed, carries, unpacked⟩ := carries_of_pack supported folds countable legal
    obtain ⟨back, read, _, again⟩ := pack_of_carries supported folds countable exact carries
    obtain rfl := Except.ok.inj (unpacked.symm.trans read)
    exact ⟨words, packed, again, unpacked⟩
  obtain ⟨leftWords, leftPacked, leftAgain, leftRead⟩ := words_of_received leftLegal
  obtain ⟨rightWords, rightPacked, rightAgain, rightRead⟩ := words_of_received rightLegal
  constructor
  · intro same
    obtain rfl := Except.ok.inj (leftPacked.symm.trans (same.trans rightPacked))
    exact Except.ok.inj (leftRead.symm.trans rightRead)
  · intro same
    rw [leftPacked, rightPacked, ← leftAgain, ← rightAgain, same]

end

/-- Packing and unpacking are inverse to each other between legal tensors of a type that single
precision has all of and the words that hold codes of values, which for most types are all words.
Tensors are told apart by their numbers, in floating point by their patterns. -/
theorem pack_unpack {type : ElementType} {shape folded : Shape} {width : Nat}
    (supported : type.isSupported = true) (exact : type.isExact = true)
    (foldsAt : shape.fold width type.storageBits = .ok folded)
    (few : folded.outerCount * width < 2 ^ 63) :
    (∀ words, Carries type width folded words → ∃ tensor,
      unpack words type width shape = .ok tensor ∧ IsLegal type shape tensor ∧
      tensor.pack width = .ok words) ∧
    (∀ tensor, IsLegal type shape tensor → ∃ words back, tensor.pack width = .ok words ∧
      Carries type width folded words ∧ unpack words type width shape = .ok back ∧
      back.sameNumbers tensor = true ∧ (type = .float32 → back = tensor)) ∧
    (∀ left right, IsLegal type shape left → IsLegal type shape right →
      (left.pack width = right.pack width ↔
        left.sameNumbers right = true ∧ (type = .float32 → left = right))) ∧
    (type.usesEveryCode = true → ∀ words, words.length = folded.outerCount →
      (∀ word ∈ words, word.width = width) → Carries type width folded words) := by
  obtain ⟨channels, folds, rfl⟩ := (Shape.fold_eq_ok_iff _ _ _ _).1 foldsAt
  have countable := folds.countable_of_few_bits (Nat.lt_trans few (by decide))
  refine ⟨fun words => pack_of_carries supported folds countable exact, fun tensor legal => ?_,
    fun left right leftLegal rightLegal => ?_, fun every words count uniform => ?_⟩
  · obtain ⟨words, packed, carries, unpacked⟩ := carries_of_pack supported folds countable legal
    refine ⟨words, _, packed, carries, unpacked,
      received_sameNumbers (legal.sendable supported countable), fun float => ?_⟩
    exact received_float32 (legal.sameType.trans float)
  · rw [pack_eq_pack_iff supported folds countable exact leftLegal rightLegal]
    exact received_eq_iff supported leftLegal rightLegal
  · exact ⟨count, uniform, fun _ _ _ _ _ => ElementType.hasValue_of_usesEveryCode every _⟩

theorem carries_ternaryPair : Carries .ternary 4 ⟨[1, 2]⟩ [.ofNat 4 13] := by
  have folds : Shape.Folds ⟨[2]⟩ 4 ElementType.ternary.storageBits 2 :=
    ⟨by decide, by decide, by decide, rfl, by decide⟩
  have uniform : ∀ word ∈ [Word.ofNat 4 13], word.width = 4 := by decide
  exact ⟨rfl, uniform, (hasValue_iff_of_fields rfl folds uniform).2 (by decide)⟩

theorem pack_unpack_ternaryPair : ∃ tensor,
    unpack [.ofNat 4 13] .ternary 4 ⟨[2]⟩ = .ok tensor ∧ IsLegal .ternary ⟨[2]⟩ tensor ∧
      tensor.pack 4 = .ok [.ofNat 4 13] :=
  (pack_unpack rfl rfl rfl (by decide)).1 _ carries_ternaryPair

end StreamWidth.Tensor
