import StreamWidth.Proofs.Layout

/-!
What is read from the words of a stream. Words are refused for their count or their width alone, and
each element is the value of the field that belongs to it.
-/

namespace StreamWidth

open BitStream (ofWords numbers)

namespace ElementType

/-- The stored value of a code: two's complement for signed integers, the number itself for unsigned
ones, both rounded to single precision, and the pattern for floating point. -/
def Stores (storage : ElementType) (code : Nat) (stored : Binary32) : Prop :=
  match storage with
  | float32 => stored.bits.toNat = code
  | binary | unsigned _ => stored = .ofInt code
  | bipolar | ternary | signed _ => stored = .ofInt (BitVec.ofNat storage.bitwidth code).toInt

def Decodes (type : ElementType) (code : Nat) (x : Binary32) : Prop :=
  ∃ stored, type.storage.Stores code stored ∧ x = type.decode stored

theorem toInt_ofNat_of_lt {bits code : Nat} (bounded : code < 2 ^ bits) :
    (BitVec.ofNat bits code).toInt =
      if 2 ^ bits ≤ 2 * code then (code : Int) - 2 ^ bits else code := by
  have cast : ((2 ^ bits : Nat) : Int) = 2 ^ bits := Int.natCast_pow 2 bits
  rw [BitVec.toInt_eq_toNat_cond, BitVec.toNat_ofNat, Nat.mod_eq_of_lt bounded, ← cast]
  by_cases upper : 2 ^ bits ≤ 2 * code
  · rw [if_neg (Nat.not_lt.2 upper), if_pos upper]
  · rw [if_pos (Nat.not_le.1 upper), if_neg upper]

theorem stores_ofCode (storage : ElementType) {code : Nat}
    (bounded : code < 2 ^ storage.bitwidth) : storage.Stores code (storage.ofCode code) := by
  cases storage with
  | float32 => exact Nat.mod_eq_of_lt bounded
  | binary | unsigned bits => rfl
  | bipolar | ternary | signed bits =>
      simp only [Stores, ofCode, isSigned, Bool.true_and, decide_eq_true_eq]
      rw [toInt_ofNat_of_lt bounded, apply_ite Binary32.ofInt]

theorem decodes_ofElementCode (type : ElementType) {code : Nat}
    (bounded : code < 2 ^ type.storageBits) : type.Decodes code (type.ofElementCode code) :=
  ⟨_, stores_ofCode type.storage bounded, rfl⟩

end ElementType

namespace Tensor

variable {type : ElementType} {shape : Shape} {width channels : Nat} {words : List Word}

/-- A tensor whose elements are the values of the fields of words, word by word and the lowest field
of each first. -/
structure ReadFrom (tensor : Tensor) (words : List Word) (width : Nat) : Prop where
  fields : ∀ place < tensor.shape.elementCount, ∃ word code x,
    words[place / (width / tensor.type.storageBits)]? = some word ∧
    word.Holds (place % (width / tensor.type.storageBits) * tensor.type.storageBits)
      tensor.type.storageBits code ∧
    tensor.data[place]? = some x ∧ tensor.type.Decodes code x

theorem readFrom_of_unpack {tensor : Tensor} (supported : type.isSupported = true)
    (folds : Shape.Folds shape width type.storageBits channels)
    (unpacked : unpack words type width shape = .ok tensor) : tensor.ReadFrom words width := by
  have short := ElementType.storageBits_short supported
  obtain ⟨_, uniform, rfl, rfl, data⟩ := (unpack_eq_ok_iff short folds words tensor).1 unpacked
  refine ⟨?_⟩
  intro place inside
  rw [← tensor.filled] at inside
  have present := List.getElem?_eq_getElem inside
  -- Every element was decoded from the number that stands in its place.
  obtain ⟨code, found, decoded⟩ : ∃ code,
      (numbers tensor.type.storageBits (ofWords words))[place]? = some code ∧
        tensor.type.ofElementCode code = tensor.data[place] := by
    rw [← Option.map_eq_some_iff, ← List.getElem?_map, ← data]
    exact present
  obtain ⟨word, wordFound, read⟩ := (numbers_getElem?_eq_some_iff short folds.bitsPositive
    folds.perWord_positive words
    (fun word member => folds.perWord_mul.trans (uniform word member).symm) place code).1 found
  have holds := Word.holds_of_field read
  exact ⟨word, code, _, wordFound, holds, present,
    decoded ▸ tensor.type.decodes_ofElementCode holds.bounded⟩

/-- Words that fill a folded shape: as many as it counts, all of the width of the stream. -/
structure Fill (words : List Word) (width : Nat) (folded : Shape) : Prop where
  count : words.length = folded.outerCount
  uniform : ∀ word ∈ words, word.width = width

theorem not_fill_iff (words : List Word) (width : Nat) (folded : Shape) :
    ¬Fill words width folded ↔
      words.length ≠ folded.outerCount ∨ ∃ word ∈ words, word.width ≠ width := by
  constructor
  · intro misses
    by_cases count : words.length = folded.outerCount
    · refine Or.inr (Decidable.byContradiction fun uniform => misses ⟨count, ?_⟩)
      simpa using uniform
    · exact Or.inl count
  · rintro (different | ⟨word, member, different⟩) fill
    · exact different fill.count
    · exact different (fill.uniform word member)

theorem unpack_cases (supported : type.isSupported = true) (shape : Shape) (width : Nat)
    (words : List Word) (few : words.length * width < 2 ^ 63) :
    (¬∃ channels, Shape.Folds shape width type.storageBits channels) ∧
        (∃ cause, unpack words type width shape = .error (.configuration cause)) ∨
      ∃ channels, Shape.Folds shape width type.storageBits channels ∧
        (Fill words width (shape.splitLast channels (width / type.storageBits)) ∧
            (∃ tensor, unpack words type width shape = .ok tensor) ∨
          ¬Fill words width (shape.splitLast channels (width / type.storageBits)) ∧
            ∃ cause, unpack words type width shape = .error (.shapeMismatch cause)) := by
  have short := ElementType.storageBits_short supported
  rcases Shape.fold_cases shape width type.storageBits with
    ⟨channels, folds, folded⟩ | ⟨unfolded, cause, refused⟩
  · have refused {cause : MismatchError} (checked : checkWords words width shape
        (shape.splitLast channels (width / type.storageBits)) = .error (.shapeMismatch cause)) :
        unpack words type width shape = .error (.shapeMismatch cause) := by
      rw [unpack, folded]
      simp only [bind, Except.bind, checked]
    refine Or.inr ⟨channels, folds, ?_⟩
    rcases checkWords_cases words width shape _ with
      ⟨count, uniform⟩ | ⟨different, checked⟩ |
      ⟨before, word, after, _, order, _, different, checked⟩
    · have fewBits : (shape.splitLast channels (width / type.storageBits)).outerCount * width <
          Shape.countLimit := by
        rw [← count]
        exact Nat.lt_trans few (by decide)
      exact Or.inl ⟨⟨count, uniform⟩, exists_unpack_eq_ok short folds
        (folds.countable_of_few_bits fewBits) words count uniform⟩
    · exact Or.inr ⟨fun fill => different fill.count, _, refused checked⟩
    · exact Or.inr ⟨fun fill => different (fill.uniform word (order ▸ List.mem_append_cons_self)),
        _, refused checked⟩
  · refine Or.inl ⟨unfolded, cause, ?_⟩
    rw [unpack, refused]
    rfl

/-- Unpacking is refused for a shape that does not fold, then for words that are not as many as fill
the shape or of another width, and for nothing else: what is read always fills the shape, and each
element is the value of the field that belongs to it. -/
theorem unpack_outcome (words : List Word) (type : ElementType) (width : Nat) (shape : Shape)
    (supported : type.isSupported = true) (few : words.length * width < 2 ^ 63) :
    ((∃ cause, unpack words type width shape = .error (.configuration cause)) ↔
      ¬∃ channels, Shape.Folds shape width type.storageBits channels) ∧
    (∀ folded, shape.fold width type.storageBits = .ok folded →
      ((∃ cause, unpack words type width shape = .error (.shapeMismatch cause)) ↔
        words.length ≠ folded.outerCount ∨ ∃ word ∈ words, word.width ≠ width) ∧
      ((∃ tensor, unpack words type width shape = .ok tensor) ↔
        words.length = folded.outerCount ∧ ∀ word ∈ words, word.width = width)) ∧
    (∀ tensor, unpack words type width shape = .ok tensor →
      tensor.shape = shape ∧ tensor.type = type ∧ tensor.ReadFrom words width) ∧
    ∀ cause, unpack words type width shape ≠ .error (.validation cause) := by
  rcases unpack_cases supported shape width words few with
    ⟨unfolded, cause, refused⟩ | ⟨channels, folds, outcome⟩
  · rw [refused]
    refine ⟨iff_of_true ⟨cause, rfl⟩ unfolded, ?_, by simp, by simp⟩
    intro folded folding
    obtain ⟨channels, folds, _⟩ := (Shape.fold_eq_ok_iff _ _ _ _).1 folding
    exact absurd ⟨channels, folds⟩ unfolded
  · have only {folded : Shape} (folding : shape.fold width type.storageBits = .ok folded) :
        folded = shape.splitLast channels (width / type.storageBits) := by
      have success := (Shape.fold_eq_ok_iff shape _ width type.storageBits).2 ⟨channels, folds, rfl⟩
      exact Except.ok.inj (folding.symm.trans success)
    rcases outcome with ⟨fill, tensor, unpacked⟩ | ⟨misses, cause, refused⟩
    · obtain ⟨_, _, sameShape, sameType, _⟩ :=
        (unpack_eq_ok_iff (ElementType.storageBits_short supported) folds words tensor).1 unpacked
      have read := readFrom_of_unpack supported folds unpacked
      rw [unpacked]
      refine ⟨iff_of_false (by simp) (not_not_intro ⟨channels, folds⟩), ?_, ?_, by simp⟩
      · intro folded folding
        obtain rfl := only folding
        rw [← not_fill_iff]
        exact ⟨iff_of_false (by simp) (not_not_intro fill),
          iff_of_true ⟨tensor, rfl⟩ ⟨fill.count, fill.uniform⟩⟩
      · intro other same
        obtain rfl := Except.ok.inj same
        exact ⟨sameShape, sameType, read⟩
    · rw [refused]
      refine ⟨iff_of_false (by simp) (not_not_intro ⟨channels, folds⟩), ?_, by simp, by simp⟩
      intro folded folding
      obtain rfl := only folding
      rw [← not_fill_iff]
      exact ⟨iff_of_true ⟨cause, rfl⟩ misses,
        iff_of_false (by simp) fun ⟨count, uniform⟩ => misses ⟨count, uniform⟩⟩

theorem unpack_outcome_sixIntegers :
    (∃ tensor,
      unpack [.ofNat 10 16, .ofNat 10 31, .ofNat 10 487] (.signed 5) 10 ⟨[6]⟩ = .ok tensor ∧
        tensor.ReadFrom [.ofNat 10 16, .ofNat 10 31, .ofNat 10 487] 10) ∧
    ∃ tensor, unpack [] .ternary 4 ⟨[2 ^ 40, 2 ^ 40, 0, 2]⟩ = .ok tensor ∧
      tensor.ReadFrom [] 4 := by
  obtain ⟨_, accepted, read, _⟩ := unpack_outcome [.ofNat 10 16, .ofNat 10 31, .ofNat 10 487]
    (.signed 5) 10 ⟨[6]⟩ rfl (by decide)
  obtain ⟨_, emptyAccepted, emptyRead, _⟩ :=
    unpack_outcome [] .ternary 4 ⟨[2 ^ 40, 2 ^ 40, 0, 2]⟩ rfl (by decide)
  obtain ⟨tensor, unpacked⟩ := (accepted ⟨[3, 2]⟩ rfl).2.2 ⟨rfl, by decide⟩
  obtain ⟨other, emptyUnpacked⟩ :=
    (emptyAccepted ⟨[2 ^ 40, 2 ^ 40, 0, 1, 2]⟩ rfl).2.2 ⟨rfl, by decide⟩
  exact ⟨⟨tensor, unpacked, (read tensor unpacked).2.2⟩,
    ⟨other, emptyUnpacked, (emptyRead other emptyUnpacked).2.2⟩⟩

end Tensor

end StreamWidth
