import StreamWidth.Grouping
import StreamWidth.Word

/-!
Words as one stream of bits: words in order, the least significant bit of each first. The same
stream can be read as words of any width that divides its length.
-/

namespace StreamWidth.BitStream

open Grouping (cut)

def lowBits (count value : Nat) : List Bool :=
  (List.range count).map value.testBit

def ofWord (word : Word) : List Bool :=
  lowBits word.width word.value

def ofWords (words : List Word) : List Bool :=
  (words.map ofWord).flatten

def number : List Bool → Nat
  | [] => 0
  | bit :: rest => bit.toNat + 2 * number rest

theorem number_lt (bits : List Bool) : number bits < 2 ^ bits.length := by
  induction bits with
  | nil => simp [number]
  | cons bit rest ih =>
      have := Bool.toNat_lt bit
      simp only [number, List.length_cons, Nat.pow_succ]
      omega

def toWord (bits : List Bool) : Word :=
  ⟨bits.length, number bits, number_lt bits⟩

/-- The words of one width that a stream fills. Bits that fill no whole word are left out. -/
def toWords (width : Nat) (bits : List Bool) : List Word :=
  (cut width (bits.length / width) bits).map toWord

def numbers (width : Nat) (bits : List Bool) : List Nat :=
  (toWords width bits).map Word.value

theorem lowBits_length (count value : Nat) : (lowBits count value).length = count := by
  simp [lowBits]

theorem ofWord_length (word : Word) : (ofWord word).length = word.width :=
  lowBits_length _ _

theorem testBit_number_zero (bit : Bool) (rest : List Bool) :
    (number (bit :: rest)).testBit 0 = bit := by
  cases bit <;> simp [number, Nat.testBit_zero, Nat.add_mod]

theorem testBit_number_succ (bit : Bool) (rest : List Bool) (index : Nat) :
    (number (bit :: rest)).testBit (index + 1) = (number rest).testBit index := by
  rw [Nat.testBit_succ]
  congr 1
  have := Bool.toNat_lt bit
  simp only [number]
  omega

theorem lowBits_number (bits : List Bool) : lowBits bits.length (number bits) = bits := by
  induction bits with
  | nil => rfl
  | cons bit rest ih =>
      have shifted : (number (bit :: rest)).testBit ∘ Nat.succ = (number rest).testBit :=
        funext fun index => testBit_number_succ bit rest index
      rw [lowBits, List.length_cons, List.range_succ_eq_map, List.map_cons, List.map_map,
        testBit_number_zero, shifted]
      exact congrArg (bit :: ·) ih

theorem number_lowBits (width : Nat) : ∀ value : Nat, value < 2 ^ width →
    number (lowBits width value) = value := by
  induction width with
  | zero =>
      intro value bounded
      simp at bounded
      simp [lowBits, number, bounded]
  | succ width ih =>
      intro value bounded
      have half : value / 2 < 2 ^ width := by
        rw [Nat.pow_succ] at bounded
        omega
      have shifted : (List.range width).map (value.testBit ∘ Nat.succ) =
          lowBits width (value / 2) := by
        apply List.map_congr_left
        intro index _
        simp [Nat.testBit_succ]
      rw [lowBits, List.range_succ_eq_map, List.map_cons, List.map_map, number, shifted, ih _ half,
        Nat.testBit_zero]
      by_cases odd : value % 2 = 1
      · simp [odd]
        omega
      · simp [odd]
        omega

theorem ofWord_toWord (bits : List Bool) : ofWord (toWord bits) = bits :=
  lowBits_number bits

theorem toWord_ofWord (word : Word) : toWord (ofWord word) = word := by
  obtain ⟨width, value, bounded⟩ := word
  have sameValue := number_lowBits width value bounded
  simp only [toWord, ofWord, lowBits_length, sameValue]

theorem lowBits_add (low high value : Nat) :
    lowBits (low + high) value = lowBits low value ++ lowBits high (value >>> low) := by
  simp only [lowBits, List.range_add, List.map_append, List.map_map]
  congr 1
  apply List.map_congr_left
  intro index _
  simp

theorem lowBits_mod (count value : Nat) : lowBits count (value % 2 ^ count) = lowBits count value := by
  apply List.map_congr_left
  intro index inside
  have below : index < count := List.mem_range.1 inside
  simp [below]

theorem lowBits_fields (bits count value : Nat) :
    lowBits (count * bits) value =
      ((List.range count).map fun index => lowBits bits (value >>> (index * bits))).flatten := by
  induction count with
  | zero => simp [lowBits]
  | succ count ih =>
      rw [Nat.succ_mul, lowBits_add, ih, List.range_succ, List.map_append, List.flatten_append]
      simp

theorem ofWord_uniform {width : Nat} {words : List Word}
    (uniform : ∀ word ∈ words, word.width = width) :
    ∀ piece ∈ words.map ofWord, piece.length = width := by
  intro piece member
  obtain ⟨word, present, rfl⟩ := List.mem_map.1 member
  rw [ofWord_length, uniform word present]

theorem ofWords_length (width : Nat) (words : List Word)
    (uniform : ∀ word ∈ words, word.width = width) :
    (ofWords words).length = words.length * width := by
  rw [ofWords, Grouping.length_flatten width _ (ofWord_uniform uniform), List.length_map]

theorem toWords_length (width : Nat) (bits : List Bool) :
    (toWords width bits).length = bits.length / width := by
  rw [toWords, List.length_map, Grouping.cut_length]

theorem width_of_mem_toWords {width : Nat} {bits : List Bool} {word : Word}
    (member : word ∈ toWords width bits) : word.width = width := by
  obtain ⟨piece, present, rfl⟩ := List.mem_map.1 member
  exact Grouping.length_of_mem_cut width _ bits piece (Nat.div_mul_le_self _ _) present

theorem numbers_length (width : Nat) (bits : List Bool) :
    (numbers width bits).length = bits.length / width := by
  rw [numbers, List.length_map, toWords_length]

theorem lt_of_mem_numbers {width : Nat} {bits : List Bool} {value : Nat}
    (member : value ∈ numbers width bits) : value < 2 ^ width := by
  obtain ⟨word, present, rfl⟩ := List.mem_map.1 member
  rw [← width_of_mem_toWords present]
  exact word.bounded

theorem toWords_flatten (width : Nat) (positive : 0 < width) (pieces : List (List Bool))
    (uniform : ∀ piece ∈ pieces, piece.length = width) :
    toWords width pieces.flatten = pieces.map toWord := by
  rw [toWords, Grouping.length_flatten width pieces uniform, Nat.mul_div_cancel _ positive,
    Grouping.cut_flatten width pieces uniform]

theorem toWords_ofWords (width : Nat) (positive : 0 < width) (words : List Word)
    (uniform : ∀ word ∈ words, word.width = width) : toWords width (ofWords words) = words := by
  have same : toWord ∘ ofWord = id := funext toWord_ofWord
  rw [ofWords, toWords_flatten width positive _ (ofWord_uniform uniform), List.map_map, same,
    List.map_id]

theorem ofWords_toWords (width : Nat) (bits : List Bool) (whole : width ∣ bits.length) :
    ofWords (toWords width bits) = bits := by
  have same : ofWord ∘ toWord = id := funext ofWord_toWord
  rw [ofWords, toWords, List.map_map, same, List.map_id]
  exact Grouping.flatten_cut width _ bits (Nat.div_mul_cancel whole).symm

theorem numbers_lowBits (width : Nat) (positive : 0 < width) (values : List Nat)
    (bounded : ∀ value ∈ values, value < 2 ^ width) :
    numbers width (values.map (lowBits width)).flatten = values := by
  have uniform : ∀ piece ∈ values.map (lowBits width), piece.length = width := by
    intro piece member
    obtain ⟨value, _, rfl⟩ := List.mem_map.1 member
    exact lowBits_length width value
  rw [numbers, toWords_flatten width positive _ uniform, List.map_map, List.map_map]
  calc values.map (Word.value ∘ toWord ∘ lowBits width)
      = values.map id := List.map_congr_left fun value member =>
          number_lowBits width value (bounded value member)
    _ = values := List.map_id values

theorem lowBits_numbers (width : Nat) (bits : List Bool) (whole : width ∣ bits.length) :
    ((numbers width bits).map (lowBits width)).flatten = bits := by
  have each : (numbers width bits).map (lowBits width) = (toWords width bits).map ofWord := by
    rw [numbers, List.map_map]
    apply List.map_congr_left
    intro word member
    rw [ofWord, width_of_mem_toWords member]
    rfl
  rw [each]
  exact ofWords_toWords width bits whole

end StreamWidth.BitStream
