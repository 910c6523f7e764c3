import StreamWidth.Proofs.Outcomes

/-!
Where elements lie in the words of a stream. Every element has a field of its own, which holds its
code, and the fields take up all bits of all words.
-/

namespace StreamWidth

namespace Grouping

variable {α : Type}

theorem getElem?_flatten {size : Nat} (positive : 0 < size) (pieces : List (List α))
    (uniform : ∀ piece ∈ pieces, piece.length = size) : ∀ index,
    pieces.flatten[index]? = pieces[index / size]?.bind (·[index % size]?) := by
  induction pieces with
  | nil => simp
  | cons piece rest ih =>
      intro index
      obtain ⟨sized, others⟩ := List.forall_mem_cons.1 uniform
      rw [List.flatten_cons]
      by_cases first : index < size
      · rw [List.getElem?_append_left (by rw [sized]; exact first), Nat.div_eq_of_lt first,
          Nat.mod_eq_of_lt first, List.getElem?_cons_zero, Option.bind_some]
      · have later : index = index - size + size := by omega
        have piecesBefore : index / size = (index - size) / size + 1 := by
          rw [later, Nat.add_sub_cancel, Nat.add_div_right _ positive]
        have itemsBefore : index % size = (index - size) % size := by
          rw [later, Nat.add_sub_cancel, Nat.add_mod_right]
        rw [List.getElem?_append_right (by rw [sized]; omega), sized, ih others, piecesBefore,
          itemsBefore, List.getElem?_cons_succ]

theorem div_mod_place {size item : Nat} (inside : item < size) (piece : Nat) :
    (piece * size + item) / size = piece ∧ (piece * size + item) % size = item := by
  have positive : 0 < size := by omega
  constructor
  · rw [Nat.add_comm, Nat.add_mul_div_right _ _ positive, Nat.div_eq_of_lt inside, Nat.zero_add]
  · rw [Nat.add_comm, Nat.add_mul_mod_self_right, Nat.mod_eq_of_lt inside]

end Grouping

open BitStream (toWords ofWords numbers)

namespace Word

structure Holds (word : Word) (offset length number : Nat) : Prop where
  bounded : number < 2 ^ length
  bits : ∀ index < length, word.bit (offset + index) = .ok (number.testBit index)

theorem holds_of_field {word : Word} {offset length number : Nat}
    (read : word.field offset length = .ok number) : word.Holds offset length number := by
  obtain ⟨fits, rfl⟩ := fits_of_field read
  have inside : offset + length ≤ word.width := by
    simp only [fieldFits, Bool.and_eq_true, decide_eq_true_eq] at fits
    exact fits.2
  refine ⟨Nat.mod_lt _ (Nat.two_pow_pos length), ?_⟩
  intro index below
  rw [word.bit_of_lt _ (by omega), Nat.testBit_mod_two_pow, decide_eq_true below, Bool.true_and,
    Nat.testBit_shiftRight]

end Word

section

variable {bits count : Nat} (short : bits ≤ Word.fieldLimit) (positive : 0 < bits)
  (nonempty : 0 < count) (words : List Word) (full : ∀ word ∈ words, count * bits = word.width)

include short positive nonempty full

theorem numbers_getElem?_eq_some_iff (place code : Nat) :
    (numbers bits (ofWords words))[place]? = some code ↔
      ∃ word, words[place / count]? = some word ∧
        word.field (place % count * bits) bits = .ok code := by
  have inside : place % count < count := Nat.mod_lt _ nonempty
  have sized : ∀ piece ∈ words.map fun word => word.fieldNumbers bits count,
      piece.length = count := by
    intro piece member
    obtain ⟨word, _, rfl⟩ := List.mem_map.1 member
    simp [Word.fieldNumbers]
  rw [numbers_ofWords positive words full, Grouping.getElem?_flatten nonempty _ sized,
    List.getElem?_map, Option.bind_map, Option.bind_eq_some_iff]
  refine exists_congr fun word => and_congr_right fun present => ?_
  have room : (place % count + 1) * bits ≤ count * bits := Nat.mul_le_mul_right bits inside
  rw [Nat.succ_mul, full word (List.mem_of_getElem? present)] at room
  rw [Word.field_of_fits (Word.fieldFits_of_le short room)]
  simp [Word.fieldNumbers, inside]

theorem exists_number_of_bit {position index : Nat} {word : Word}
    (present : words[position]? = some word) (inside : index < word.width) :
    ∃ code, (numbers bits (ofWords words))[position * count + index / bits]? = some code ∧
      word.bit index = .ok (code.testBit (index % bits)) := by
  have width := full word (List.mem_of_getElem? present)
  have field : index / bits < count := (Nat.div_lt_iff_lt_mul positive).2 (by omega)
  obtain ⟨wordOf, fieldOf⟩ := Grouping.div_mod_place field position
  have room : (index / bits + 1) * bits ≤ count * bits := Nat.mul_le_mul_right bits field
  rw [Nat.succ_mul, width] at room
  have read := Word.field_of_fits (Word.fieldFits_of_le short room)
  refine ⟨_, (numbers_getElem?_eq_some_iff short positive nonempty words full _ _).2
    ⟨word, by rw [wordOf]; exact present, by rw [fieldOf]; exact read⟩, ?_⟩
  rw [← (Word.holds_of_field read).bits _ (Nat.mod_lt _ positive), Nat.div_add_mod']

end

namespace ElementType

/-- The code of a value as a stream carries it: integers modulo the range of their bits, bipolar
values as zero and one, floating-point numbers as their patterns. -/
def Encodes (type : ElementType) (x : Binary32) (code : Nat) : Prop :=
  match type with
  | float32 => code = x.bits.toNat
  | bipolar => ∃ v, x.toInt? = some v ∧ (code : Int) = (v + 1) / 2
  | type => ∃ v, x.toInt? = some v ∧ (code : Int) = v % 2 ^ type.bitwidth

theorem encodes_elementCode {type : ElementType} (supported : type.isSupported = true)
    {x : Binary32} (legal : type.Legal x) : type.Encodes x (type.elementCode x) := by
  by_cases integral : type.isIntegral = true
  · obtain ⟨n, found, above, below⟩ := (legal_iff_of_integral integral x).1 legal
    have fits := fits_of_integral integral above below
    have code := elementCode_eq_emod integral found (kept_of_fits (bitwidth_short supported) fits)
    have cast : ((2 ^ type.bitwidth : Nat) : Int) = 2 ^ type.bitwidth := Int.natCast_pow 2 _
    have natural : 0 ≤ n % 2 ^ type.bitwidth :=
      Int.emod_nonneg n (Int.ne_of_gt (Int.pow_pos (by decide)))
    have value : ((type.elementCode x : Nat) : Int) = n % 2 ^ type.bitwidth := by
      rw [code, cast, Int.toNat_of_nonneg natural]
    cases type with
    | bipolar | float32 => simp [isIntegral] at integral
    | _ => exact ⟨n, found, value⟩
  · cases type with
    | float32 => rfl
    | bipolar =>
        rcases eq_of_legal_bipolar legal with rfl | rfl
        · exact ⟨1, by decide, by decide⟩
        · exact ⟨-1, by decide, by decide⟩
    | _ => simp [isIntegral] at integral

end ElementType

namespace Tensor

variable {tensor : Tensor} {width : Nat}

/-- The words of a tensor: as many as its elements fill, and in each place the code of the element
that belongs there. -/
structure LaidOut (tensor : Tensor) (width : Nat) (words : List Word) : Prop where
  count : words.length = tensor.shape.elementCount / (width / tensor.type.storageBits)
  uniform : ∀ word ∈ words, word.width = width
  fields : ∀ place x, tensor.data[place]? = some x → ∃ word code,
    words[place / (width / tensor.type.storageBits)]? = some word ∧
    word.Holds (place % (width / tensor.type.storageBits) * tensor.type.storageBits)
      tensor.type.storageBits code ∧
    tensor.type.Encodes x code

/-- A bit of a word that lies in the field of one element. -/
structure InField (tensor : Tensor) (width place position index : Nat) : Prop where
  word : position = place / (width / tensor.type.storageBits)
  above : place % (width / tensor.type.storageBits) * tensor.type.storageBits ≤ index
  below : index < (place % (width / tensor.type.storageBits) + 1) * tensor.type.storageBits

theorem firstRefused_append {type : ElementType} {x : Binary32} (after : List Binary32)
    (refused : type.accepts x = .ok false) (before : List Binary32) : ∀ index,
    (∀ y ∈ before, type.accepts y = .ok true) →
    firstRefused type index (before ++ x :: after) = .ok (some (index + before.length, x)) := by
  induction before with
  | nil =>
      intro index _
      rw [List.nil_append, firstRefused, refused]
      rfl
  | cons y rest ih =>
      intro index allowed
      obtain ⟨accepted, others⟩ := List.forall_mem_cons.1 allowed
      rw [List.cons_append, firstRefused, accepted]
      simp only [bind, Except.bind, ↓reduceIte]
      rw [ih (index + 1) others, List.length_cons, Nat.add_assoc, Nat.add_comm 1]

theorem pack_of_refused {before after : List Binary32} {x : Binary32}
    (data : tensor.data = before ++ x :: after)
    (allowed : ∀ y ∈ before, tensor.type.accepts y = .ok true)
    (refused : tensor.type.accepts x = .ok false) (width : Nat) :
    tensor.pack width = .error (.validation (.unrepresentable x before.length tensor.type)) := by
  have found := firstRefused_append after refused before 0 allowed
  rw [Nat.zero_add, ← data] at found
  rw [pack, firstDisallowed, found]
  rfl

theorem pack_cases (supported : tensor.type.isSupported = true)
    (few : tensor.data.length < capacity) (width : Nat) :
    (∃ x ∈ tensor.data, tensor.type.accepts x = .ok false ∧
        ∃ cause, tensor.pack width = .error (.validation cause)) ∨
      (∀ x ∈ tensor.data, tensor.type.accepts x = .ok true) ∧
        ((¬∃ channels, Shape.Folds tensor.shape width tensor.type.storageBits channels) ∧
            (∃ cause, tensor.pack width = .error (.configuration cause)) ∨
          ∃ channels, Shape.Folds tensor.shape width tensor.type.storageBits channels ∧
            Sendable tensor ∧ tensor.pack width = .ok (toWords width tensor.bits)) := by
  rcases firstRefused_cases supported tensor.data 0 with
    ⟨allowed, nothing⟩ | ⟨before, x, after, data, allowed, refused, _⟩
  · refine Or.inr ⟨allowed, ?_⟩
    rcases Shape.fold_cases tensor.shape width tensor.type.storageBits with
      ⟨channels, folds, _⟩ | ⟨unfolded, cause, refused⟩
    · have sendable := sendable_of_few supported allowed (Nat.lt_trans few (by decide)) folds
      exact Or.inr ⟨channels, folds, sendable, sendable.pack_eq folds⟩
    · refine Or.inl ⟨unfolded, cause, ?_⟩
      rw [pack, firstDisallowed, nothing, refused]
      rfl
  · exact Or.inl ⟨x, data ▸ List.mem_append_cons_self, refused, _,
      pack_of_refused data allowed refused width⟩

section

variable {channels : Nat}
  (folds : Shape.Folds tensor.shape width tensor.type.storageBits channels)

include folds

theorem full_toWords : ∀ word ∈ toWords width tensor.bits,
    width / tensor.type.storageBits * tensor.type.storageBits = word.width :=
  fun _ member => folds.perWord_mul.trans (BitStream.width_of_mem_toWords member).symm

theorem Sendable.laidOut (sendable : Sendable tensor) :
    tensor.LaidOut width (toWords width tensor.bits) := by
  refine ⟨?_, fun word member => BitStream.width_of_mem_toWords member, ?_⟩
  · rw [length_toWords folds sendable.countable, ← folds.outerCount_mul sendable.countable,
      Nat.mul_div_cancel _ folds.perWord_positive]
  · intro place x present
    have coded : (numbers tensor.type.storageBits (ofWords (toWords width tensor.bits)))[place]? =
        some (tensor.type.elementCode x) := by
      rw [ofWords_toWords_bits folds sendable.countable, numbers_bits folds.bitsPositive,
        List.getElem?_map, present, Option.map_some]
    obtain ⟨word, found, read⟩ := (numbers_getElem?_eq_some_iff sendable.short folds.bitsPositive
      folds.perWord_positive _ (full_toWords folds) place _).1 coded
    exact ⟨word, _, found, Word.holds_of_field read, ElementType.encodes_elementCode
      sendable.supported (sendable.legalValues x (List.mem_of_getElem? present))⟩

/-- A bit of a packed word is told from the one element whose field it is in. -/
theorem Sendable.bit_eq (sendable : Sendable tensor) {position index : Nat} {word : Word}
    (present : (toWords width tensor.bits)[position]? = some word) (inside : index < width) :
    ∃ x, tensor.data[position * (width / tensor.type.storageBits) +
        index / tensor.type.storageBits]? = some x ∧
      word.bit index =
        .ok ((tensor.type.elementCode x).testBit (index % tensor.type.storageBits)) := by
  have sameWidth := BitStream.width_of_mem_toWords (List.mem_of_getElem? present)
  obtain ⟨code, coded, bit⟩ := exists_number_of_bit sendable.short folds.bitsPositive
    folds.perWord_positive _ (full_toWords folds) present (sameWidth ▸ inside)
  rw [ofWords_toWords_bits folds sendable.countable, numbers_bits folds.bitsPositive,
    List.getElem?_map, Option.map_eq_some_iff] at coded
  obtain ⟨x, found, rfl⟩ := coded
  exact ⟨x, found, bit⟩

theorem inField_of_bit {position index : Nat} (inside : index < width) :
    tensor.InField width (position * (width / tensor.type.storageBits) +
      index / tensor.type.storageBits) position index := by
  have whole := folds.perWord_mul
  have field : index / tensor.type.storageBits < width / tensor.type.storageBits :=
    (Nat.div_lt_iff_lt_mul folds.bitsPositive).2 (by omega)
  have split := Nat.div_add_mod' index tensor.type.storageBits
  have rest := Nat.mod_lt index folds.bitsPositive
  obtain ⟨word, place⟩ := Grouping.div_mod_place field position
  refine ⟨word.symm, ?_, ?_⟩
  · rw [place]
    omega
  · rw [place, Nat.succ_mul]
    omega

end

theorem pack_eq_ok_iff (supported : tensor.type.isSupported = true)
    (few : tensor.data.length < capacity) (width : Nat) (words : List Word) :
    tensor.pack width = .ok words ↔
      Sendable tensor ∧
        (∃ channels, Shape.Folds tensor.shape width tensor.type.storageBits channels) ∧
        words = toWords width tensor.bits := by
  rcases pack_cases supported few width with
    ⟨x, member, refused, cause, failed⟩ |
    ⟨_, ⟨unfolded, cause, failed⟩ | ⟨channels, folds, sendable, packed⟩⟩
  · rw [failed]
    refine iff_of_false (by simp) ?_
    rintro ⟨sendable, _⟩
    have accepted := (firstDisallowed_eq_none_iff tensor).1 sendable.legal x member
    simp [refused] at accepted
  · rw [failed]
    exact iff_of_false (by simp) fun ⟨_, folds, _⟩ => unfolded folds
  · rw [packed]
    constructor
    · intro same
      exact ⟨sendable, ⟨channels, folds⟩, (Except.ok.inj same).symm⟩
    · rintro ⟨_, _, rfl⟩
      rfl

theorem bit_eq_of_outside (supported : tensor.type.isSupported = true)
    (few : tensor.data.length < capacity) {other : Tensor} (sameShape : other.shape = tensor.shape)
    (sameType : other.type = tensor.type) {place : Nat}
    (same : ∀ elsewhere, elsewhere ≠ place → other.data[elsewhere]? = tensor.data[elsewhere]?)
    {words otherWords : List Word} (packed : tensor.pack width = .ok words)
    (otherPacked : other.pack width = .ok otherWords) {position index : Nat} {word otherWord : Word}
    (present : words[position]? = some word) (otherPresent : otherWords[position]? = some otherWord)
    (outside : ¬tensor.InField width place position index) :
    otherWord.bit index = word.bit index := by
  have otherFew : other.data.length < capacity := by
    rw [other.filled, sameShape, ← tensor.filled]
    exact few
  obtain ⟨sendable, ⟨channels, folds⟩, rfl⟩ := (pack_eq_ok_iff supported few width words).1 packed
  obtain ⟨otherSendable, _, rfl⟩ :=
    (pack_eq_ok_iff (sameType ▸ supported) otherFew width otherWords).1 otherPacked
  have wordWidth := BitStream.width_of_mem_toWords (List.mem_of_getElem? present)
  have otherWidth := BitStream.width_of_mem_toWords (List.mem_of_getElem? otherPresent)
  by_cases inside : index < width
  · obtain ⟨x, found, bit⟩ := sendable.bit_eq folds present inside
    obtain ⟨y, otherFound, otherBit⟩ := otherSendable.bit_eq
      (by rw [sameShape, sameType]; exact folds) otherPresent inside
    rw [sameType] at otherFound otherBit
    rw [same _ fun here => outside (here ▸ inField_of_bit folds inside), found] at otherFound
    obtain rfl := Option.some.inj otherFound
    rw [bit, otherBit]
  · rw [Word.bit, Word.bit, if_neg (by omega), if_neg (by omega)]

/-- Packing succeeds exactly on legal elements of a shape that folds. Then each element's code lies
in a field of its own, and no element has a say in any bit outside its field. The first element that
is no value is reported, whether or not the shape folds. -/
theorem pack_layout (tensor : Tensor) (width : Nat) (supported : tensor.type.isSupported = true)
    (few : tensor.data.length < capacity) :
    ((∃ words, tensor.pack width = .ok words) ↔
      (∀ x ∈ tensor.data, tensor.type.accepts x = .ok true) ∧
        ∃ channels, Shape.Folds tensor.shape width tensor.type.storageBits channels) ∧
    (∀ words, tensor.pack width = .ok words → tensor.LaidOut width words) ∧
    (∀ (other : Tensor) words otherWords place, other.shape = tensor.shape →
      other.type = tensor.type →
      (∀ elsewhere, elsewhere ≠ place → other.data[elsewhere]? = tensor.data[elsewhere]?) →
      tensor.pack width = .ok words → other.pack width = .ok otherWords →
      ∀ (position : Nat) word otherWord, words[position]? = some word →
        otherWords[position]? = some otherWord →
        ∀ index, ¬tensor.InField width place position index →
          otherWord.bit index = word.bit index) ∧
    ∀ before x after, tensor.data = before ++ x :: after →
      (∀ y ∈ before, tensor.type.accepts y = .ok true) → tensor.type.accepts x ≠ .ok true →
      tensor.pack width = .error (.validation (.unrepresentable x before.length tensor.type)) := by
  refine ⟨⟨?_, ?_⟩, ?_, ?_, ?_⟩
  · rintro ⟨words, packed⟩
    obtain ⟨sendable, folds, _⟩ := (pack_eq_ok_iff supported few width words).1 packed
    exact ⟨(firstDisallowed_eq_none_iff tensor).1 sendable.legal, folds⟩
  · rintro ⟨allowed, channels, folds⟩
    have sendable := sendable_of_few supported allowed (Nat.lt_trans few (by decide)) folds
    exact ⟨_, sendable.pack_eq folds⟩
  · intro words packed
    obtain ⟨sendable, ⟨channels, folds⟩, rfl⟩ :=
      (pack_eq_ok_iff supported few width words).1 packed
    exact sendable.laidOut folds
  · intro other words otherWords place sameShape sameType same packed otherPacked position word
      otherWord present otherPresent index outside
    exact bit_eq_of_outside supported few sameShape sameType same packed otherPacked present
      otherPresent outside
  · intro before x after data allowed different
    obtain ⟨accepted, decided, _⟩ := ElementType.accepts_eq_ok supported x
    cases accepted with
    | true => exact absurd decided different
    | false => exact pack_of_refused data allowed decided width

theorem pack_layout_sixIntegers :
    sixIntegers.pack 10 = .ok [.ofNat 10 16, .ofNat 10 31, .ofNat 10 487] ∧
      sixIntegers.LaidOut 10 [.ofNat 10 16, .ofNat 10 31, .ofNat 10 487] := by
  have packed : sixIntegers.pack 10 = .ok [.ofNat 10 16, .ofNat 10 31, .ofNat 10 487] := rfl
  exact ⟨packed, (pack_layout sixIntegers 10 rfl (by decide)).2.1 _ packed⟩

end Tensor

end StreamWidth
