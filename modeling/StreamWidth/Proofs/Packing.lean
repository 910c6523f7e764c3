import StreamWidth.Proofs.Folding
import StreamWidth.Proofs.Words

/-!
Packing as a stream of bits: a tensor has one stream, which does not know of any word width, and its
words are the pieces of that stream. Unpacking reads the same stream as the codes of elements.
-/

namespace StreamWidth

open BitStream (lowBits toWord toWords ofWord ofWords numbers)

theorem mapM_eq_ok {ε α β : Type} {change : α → Except ε β} {result : α → β} (items : List α)
    (each : ∀ item ∈ items, change item = .ok (result item)) :
    items.mapM change = .ok (items.map result) := by
  induction items with
  | nil => rfl
  | cons item rest ih =>
      have tail := ih fun other member => each other (List.mem_cons_of_mem _ member)
      rw [List.mapM_cons, each item List.mem_cons_self, tail]
      rfl

/-- The first step that fails decides how all of them fail. -/
theorem mapM_cases {α β : Type} (change : α → Except Failure β) (items : List α) :
    (∃ results, items.mapM change = .ok results) ∨
      ∃ item ∈ items, ∃ failure, change item = .error failure ∧
        items.mapM change = .error failure := by
  induction items with
  | nil => exact Or.inl ⟨[], rfl⟩
  | cons item rest ih =>
      rw [List.mapM_cons]
      cases first : change item with
      | error failure => exact Or.inr ⟨item, List.mem_cons_self, failure, first, rfl⟩
      | ok result =>
          rcases ih with ⟨results, others⟩ | ⟨later, member, failure, failed, stopped⟩
          · exact Or.inl ⟨result :: results, by rw [others]; rfl⟩
          · exact Or.inr ⟨later, List.mem_cons_of_mem _ member, failure, failed, by rw [stopped]; rfl⟩

namespace ElementType

def elementBits (type : ElementType) (x : Binary32) : List Bool :=
  lowBits type.storageBits (type.elementCode x)

theorem elementBits_uniform (type : ElementType) (elements : List Binary32) :
    ∀ piece ∈ elements.map type.elementBits, piece.length = type.storageBits := by
  intro piece member
  obtain ⟨x, _, rfl⟩ := List.mem_map.1 member
  exact BitStream.lowBits_length _ _

theorem bits_of_supported {type : ElementType} (supported : type.isSupported = true) :
    type.leastBits ≤ type.bitwidth ∧ type.bitwidth ≤ greatestIntegerBits := by
  simpa only [isSupported, Bool.and_eq_true, decide_eq_true_eq] using supported

theorem bitwidth_positive {type : ElementType} (supported : type.isSupported = true) :
    0 < type.bitwidth := by
  have least : 0 < type.leastBits := by cases type <;> simp only [leastBits] <;> omega
  exact Nat.lt_of_lt_of_le least (bits_of_supported supported).1

theorem bitwidth_short {type : ElementType} (supported : type.isSupported = true) :
    type.bitwidth ≤ Word.fieldLimit :=
  Nat.le_trans (bits_of_supported supported).2 (by decide)

theorem storageBits_bounds {type : ElementType} (supported : type.isSupported = true) :
    0 < type.storageBits ∧ type.storageBits ≤ greatestIntegerBits := by
  obtain ⟨least, greatest⟩ := bits_of_supported supported
  cases type <;>
    simp only [storageBits, storage, bitwidth, leastBits, greatestIntegerBits] at least greatest ⊢ <;>
    omega

theorem storageBits_short {type : ElementType} (supported : type.isSupported = true) :
    type.storageBits ≤ Word.fieldLimit :=
  Nat.le_trans (storageBits_bounds supported).2 (by decide)

end ElementType

namespace Word

theorem putElements_bits (type : ElementType) (short : type.storageBits ≤ fieldLimit)
    (elements : List Binary32) : ∀ (word : Word) (index : Nat),
    (index + elements.length) * type.storageBits ≤ word.width →
    ∃ next, word.putElements type index elements = .ok next ∧ next.width = word.width ∧
      lowBits ((index + elements.length) * type.storageBits) next.value =
        lowBits (index * type.storageBits) word.value ++ (elements.map type.elementBits).flatten := by
  induction elements with
  | nil =>
      intro word index _
      exact ⟨word, rfl, rfl, by simp⟩
  | cons x rest ih =>
      intro word index room
      have count : index + (x :: rest).length = index + 1 + rest.length := by
        rw [List.length_cons]
        omega
      have below : (index + 1) * type.storageBits ≤ word.width :=
        Nat.le_trans (Nat.mul_le_mul_right _ (by omega)) room
      rw [Nat.succ_mul] at below
      obtain ⟨written, success, sameWidth, value⟩ :=
        setField_of_fits (type.elementCode x) (fieldFits_of_le short below)
      rw [count] at room
      obtain ⟨next, rested, nextWidth, bits⟩ := ih written (index + 1) (by rw [sameWidth]; exact room)
      refine ⟨next, ?_, nextWidth.trans sameWidth, ?_⟩
      · rw [putElements, success]
        exact rested
      · rw [count, bits, Nat.succ_mul, value, lowBits_replaceBits, List.map_cons, List.flatten_cons,
          List.append_assoc]
        rfl

theorem ofElements_eq_toWord {type : ElementType} (short : type.storageBits ≤ fieldLimit)
    {width : Nat} (elements : List Binary32) (full : elements.length * type.storageBits = width) :
    ofElements type width elements = .ok (toWord (elements.map type.elementBits).flatten) := by
  obtain ⟨word, success, sameWidth, bits⟩ := putElements_bits type short elements (zero width) 0
    (by rw [Nat.zero_add, full]; exact Nat.le_refl _)
  have zeroWidth : (zero width).width = width := rfl
  rw [Nat.zero_add, full, Nat.zero_mul] at bits
  have whole : ofWord word = (elements.map type.elementBits).flatten := by
    rw [ofWord, sameWidth, zeroWidth, bits]
    rfl
  rw [ofElements, success, ← whole, BitStream.toWord_ofWord]

def fieldNumbers (word : Word) (bits count : Nat) : List Nat :=
  (List.range count).map fun index => (word.value >>> (index * bits)) % 2 ^ bits

theorem fieldNumbers_lt (word : Word) (bits count : Nat) :
    ∀ code ∈ word.fieldNumbers bits count, code < 2 ^ bits := by
  intro code member
  obtain ⟨index, _, rfl⟩ := List.mem_map.1 member
  exact Nat.mod_lt _ (Nat.two_pow_pos bits)

theorem fieldNumbers_bits (word : Word) (bits count : Nat) (full : count * bits = word.width) :
    ((word.fieldNumbers bits count).map (lowBits bits)).flatten = ofWord word := by
  rw [ofWord, ← full, BitStream.lowBits_fields, fieldNumbers, List.map_map]
  congr 1
  exact List.map_congr_left fun index _ => BitStream.lowBits_mod _ _

theorem codes_eq_ok (word : Word) (bits count : Nat) (short : bits ≤ fieldLimit)
    (full : count * bits = word.width) :
    word.codes bits count = .ok (word.fieldNumbers bits count) := by
  apply mapM_eq_ok
  intro index member
  have below : index + 1 ≤ count := List.mem_range.1 member
  have inside := Nat.mul_le_mul_right bits below
  rw [Nat.succ_mul, full] at inside
  exact field_of_fits (fieldFits_of_le short inside)

theorem mem_fieldNumbers_iff (word : Word) {bits count : Nat} (short : bits ≤ fieldLimit)
    (positive : 0 < bits) (full : count * bits = word.width) (code : Nat) :
    code ∈ word.fieldNumbers bits count ↔ ∃ index, word.field (index * bits) bits = .ok code := by
  have fits (index : Nat) : index < count ↔ word.fieldFits (index * bits) bits = true := by
    rw [fieldFits, ← full, ← Nat.succ_mul, decide_eq_true short, Bool.true_and, decide_eq_true_eq]
    exact (Nat.mul_le_mul_right_iff positive).symm
  simp only [fieldNumbers, List.mem_map, List.mem_range, fits]
  constructor
  · rintro ⟨index, inside, rfl⟩
    exact ⟨index, field_of_fits inside⟩
  · rintro ⟨index, read⟩
    by_cases inside : word.fieldFits (index * bits) bits = true
    · exact ⟨index, inside, Except.ok.inj ((field_of_fits inside).symm.trans read)⟩
    · simp [field, inside] at read

end Word

theorem numbers_ofWords {bits count : Nat} (positive : 0 < bits) (words : List Word)
    (full : ∀ word ∈ words, count * bits = word.width) :
    numbers bits (ofWords words) = (words.map fun word => word.fieldNumbers bits count).flatten := by
  have stream : ((words.map fun word => word.fieldNumbers bits count).flatten.map
      (lowBits bits)).flatten = ofWords words := by
    rw [List.map_flatten, List.flatten_flatten, List.map_map, List.map_map, ofWords]
    congr 1
    exact List.map_congr_left fun word member => word.fieldNumbers_bits _ _ (full word member)
  rw [← stream]
  apply BitStream.numbers_lowBits bits positive
  intro code member
  obtain ⟨codes, present, inside⟩ := List.mem_flatten.1 member
  obtain ⟨word, _, rfl⟩ := List.mem_map.1 present
  exact word.fieldNumbers_lt _ _ code inside

theorem mem_numbers_iff {bits count : Nat} (short : bits ≤ Word.fieldLimit) (positive : 0 < bits)
    (words : List Word) (full : ∀ word ∈ words, count * bits = word.width) (code : Nat) :
    code ∈ numbers bits (ofWords words) ↔
      ∃ word ∈ words, ∃ index, word.field (index * bits) bits = .ok code := by
  simp only [numbers_ofWords positive words full, List.mem_flatten, List.mem_map]
  constructor
  · rintro ⟨_, ⟨word, member, rfl⟩, inside⟩
    exact ⟨word, member, (word.mem_fieldNumbers_iff short positive (full word member) code).1 inside⟩
  · rintro ⟨word, member, read⟩
    exact ⟨_, ⟨word, member, rfl⟩,
      (word.mem_fieldNumbers_iff short positive (full word member) code).2 read⟩

namespace Tensor

/-- The elements of a tensor as one stream of bits, in row-major order. -/
def bits (tensor : Tensor) : List Bool :=
  (tensor.data.map tensor.type.elementBits).flatten

theorem firstRefused_eq_none_iff (type : ElementType) (elements : List Binary32) :
    ∀ index, firstRefused type index elements = .ok none ↔
      ∀ x ∈ elements, type.accepts x = .ok true := by
  induction elements with
  | nil => simp [firstRefused]
  | cons x rest ih =>
      intro index
      rw [firstRefused, List.forall_mem_cons]
      cases type.accepts x with
      | error failure => simp [bind, Except.bind]
      | ok accepted =>
          cases accepted with
          | false => simp [bind, Except.bind, pure, Except.pure]
          | true => simpa [bind, Except.bind] using ih (index + 1)

theorem firstDisallowed_eq_none_iff (tensor : Tensor) :
    tensor.firstDisallowed = .ok none ↔ ∀ x ∈ tensor.data, tensor.type.accepts x = .ok true :=
  firstRefused_eq_none_iff tensor.type tensor.data 0

theorem bits_length (tensor : Tensor) :
    tensor.bits.length = tensor.data.length * tensor.type.storageBits := by
  rw [bits, Grouping.length_flatten _ _ (tensor.type.elementBits_uniform _), List.length_map]

end Tensor

theorem packGroups_eq_toWords {type : ElementType} (short : type.storageBits ≤ Word.fieldLimit)
    {width perWord count : Nat} (positive : 0 < width) (full : perWord * type.storageBits = width)
    (data : List Binary32) (filled : data.length = count * perWord) :
    (Grouping.cut perWord count data).mapM (Word.ofElements type width) =
      .ok (toWords width (data.map type.elementBits).flatten) := by
  have sized : ∀ group ∈ Grouping.cut perWord count data, group.length = perWord :=
    fun group member =>
      Grouping.length_of_mem_cut perWord count data group (Nat.le_of_eq filled.symm) member
  have uniform : ∀ piece ∈ (Grouping.cut perWord count data).map
      fun group => (group.map type.elementBits).flatten, piece.length = width := by
    intro piece member
    obtain ⟨group, present, rfl⟩ := List.mem_map.1 member
    rw [Grouping.length_flatten _ _ (type.elementBits_uniform group), List.length_map,
      sized group present, full]
  have joined : ((Grouping.cut perWord count data).map
      fun group => (group.map type.elementBits).flatten).flatten =
        (data.map type.elementBits).flatten := by
    conv => rhs; rw [← Grouping.flatten_cut perWord count data filled]
    rw [List.map_flatten, List.flatten_flatten, List.map_map]
    rfl
  rw [mapM_eq_ok _ fun group member => Word.ofElements_eq_toWord short group
    (by rw [sized group member, full]), ← joined, BitStream.toWords_flatten width positive _ uniform,
    List.map_map]
  rfl

namespace Tensor

variable {width channels : Nat}

/-- The words of a legal tensor are those of its stream. -/
theorem pack_eq_toWords (tensor : Tensor) (short : tensor.type.storageBits ≤ Word.fieldLimit)
    (legal : tensor.firstDisallowed = .ok none)
    (folds : Shape.Folds tensor.shape width tensor.type.storageBits channels)
    (countable : Shape.product tensor.shape.dims ≤ Shape.countLimit) :
    tensor.pack width = .ok (toWords width tensor.bits) := by
  have folded := (Shape.fold_eq_ok_iff tensor.shape _ width tensor.type.storageBits).2
    ⟨channels, folds, rfl⟩
  have filled := tensor.filled.trans (folds.outerCount_mul countable).symm
  have groups := Grouping.groups_of_whole _ _ folds.perWord_positive tensor.data filled
  have words := packGroups_eq_toWords short folds.widthPositive folds.perWord_mul tensor.data filled
  have count : (toWords width tensor.bits).length =
      (tensor.shape.splitLast channels (width / tensor.type.storageBits)).outerCount := by
    rw [BitStream.toWords_length, bits_length, filled, Nat.mul_assoc, folds.perWord_mul,
      Nat.mul_div_cancel _ folds.widthPositive]
  rw [pack, legal, folded]
  simp only [bind, Except.bind, pure, Except.pure, Shape.Folds.elementsPerWord_splitLast, groups]
  rw [words]
  simp only [bits] at count
  simp [bits, count]

end Tensor

theorem checkWords_eq_ok_iff (words : List Word) (width : Nat) (shape folded : Shape) :
    checkWords words width shape folded = .ok () ↔
      words.length = folded.outerCount ∧ ∀ word ∈ words, word.width = width := by
  rw [checkWords]
  by_cases count : words.length = folded.outerCount
  · rw [if_neg (by simpa using count)]
    cases found : words.find? (·.width != width) with
    | none => simpa [count] using List.find?_eq_none.1 found
    | some word =>
        have present := List.mem_of_find?_eq_some found
        have different := List.find?_some found
        simp only [bne_iff_ne, ne_eq] at different
        simpa [count] using ⟨word, present, different⟩
  · simp [count]

namespace Tensor

variable {width channels : Nat}

theorem unpack_eq_new {type : ElementType} (short : type.storageBits ≤ Word.fieldLimit)
    {shape : Shape} (folds : Shape.Folds shape width type.storageBits channels)
    (words : List Word)
    (count : words.length = (shape.splitLast channels (width / type.storageBits)).outerCount)
    (uniform : ∀ word ∈ words, word.width = width) :
    unpack words type width shape =
      new shape ((numbers type.storageBits (ofWords words)).map type.ofElementCode) type := by
  have folded := (Shape.fold_eq_ok_iff shape _ width type.storageBits).2 ⟨channels, folds, rfl⟩
  have checked := (checkWords_eq_ok_iff words width shape _).2 ⟨count, uniform⟩
  have full (word : Word) (member : word ∈ words) :
      width / type.storageBits * type.storageBits = word.width :=
    folds.perWord_mul.trans (uniform word member).symm
  have read : words.mapM (fun word => word.codes type.storageBits (width / type.storageBits)) =
      .ok (words.map fun word => word.fieldNumbers type.storageBits (width / type.storageBits)) :=
    mapM_eq_ok words fun word member => word.codes_eq_ok _ _ short (full word member)
  have numbered := numbers_ofWords folds.bitsPositive words full
  rw [unpack, folded]
  simp only [bind, Except.bind, checked, Shape.Folds.elementsPerWord_splitLast, read, numbered]

theorem new_eq_ok_iff (shape : Shape) (data : List Binary32) (type : ElementType)
    (tensor : Tensor) :
    new shape data type = .ok tensor ↔
      tensor.shape = shape ∧ tensor.type = type ∧ tensor.data = data := by
  obtain ⟨ownShape, ownData, ownType, filled⟩ := tensor
  constructor
  · intro success
    rw [new] at success
    split at success
    · obtain ⟨rfl, rfl, rfl⟩ := Tensor.mk.inj (Except.ok.inj success)
      exact ⟨rfl, rfl, rfl⟩
    · simp at success
  · rintro ⟨rfl, rfl, rfl⟩
    exact dif_pos filled

/-- Unpacking succeeds on words of the right count and width, whatever codes they carry. -/
theorem unpack_eq_ok_iff {type : ElementType} (short : type.storageBits ≤ Word.fieldLimit)
    {shape : Shape} (folds : Shape.Folds shape width type.storageBits channels)
    (words : List Word) (tensor : Tensor) :
    unpack words type width shape = .ok tensor ↔
      words.length = (shape.splitLast channels (width / type.storageBits)).outerCount ∧
        (∀ word ∈ words, word.width = width) ∧ tensor.shape = shape ∧ tensor.type = type ∧
        tensor.data = (numbers type.storageBits (ofWords words)).map type.ofElementCode := by
  have folded := (Shape.fold_eq_ok_iff shape _ width type.storageBits).2 ⟨channels, folds, rfl⟩
  constructor
  · intro success
    obtain ⟨count, uniform⟩ : words.length = _ ∧ ∀ word ∈ words, word.width = width := by
      apply (checkWords_eq_ok_iff words width shape _).1
      cases checked : checkWords words width shape
          (shape.splitLast channels (width / type.storageBits)) with
      | ok => rfl
      | error failure =>
          rw [unpack, folded] at success
          simp [bind, Except.bind, checked] at success
    rw [unpack_eq_new short folds words count uniform, new_eq_ok_iff] at success
    exact ⟨count, uniform, success⟩
  · rintro ⟨count, uniform, filled⟩
    rwa [unpack_eq_new short folds words count uniform, new_eq_ok_iff]

theorem exists_unpack_eq_ok {type : ElementType} (short : type.storageBits ≤ Word.fieldLimit)
    {shape : Shape} (folds : Shape.Folds shape width type.storageBits channels)
    (countable : Shape.product shape.dims ≤ Shape.countLimit) (words : List Word)
    (count : words.length = (shape.splitLast channels (width / type.storageBits)).outerCount)
    (uniform : ∀ word ∈ words, word.width = width) :
    ∃ tensor, unpack words type width shape = .ok tensor := by
  have filled : ((numbers type.storageBits (ofWords words)).map type.ofElementCode).length =
      shape.elementCount := by
    rw [List.length_map, BitStream.numbers_length, BitStream.ofWords_length width words uniform,
      count, Nat.mul_div_assoc _ folds.divides, folds.outerCount_mul countable]
  exact ⟨⟨shape, _, type, filled⟩,
    (unpack_eq_ok_iff short folds words _).2 ⟨count, uniform, rfl, rfl, rfl⟩⟩

end Tensor

end StreamWidth
