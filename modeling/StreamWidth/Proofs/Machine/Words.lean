import StreamWidth.Proofs.Words

/-!
Words in bytes, and arithmetic of a machine that stops where a result does not fit its operands.
What words do with numbers, bytes do bit by bit, and as long as the bits lie in the word no step
stops the machine.
-/

namespace StreamWidth.Machine

inductive Trap
  | overflow
  | oversizedShift
  | divisionByZero
  | indexOutOfRange
  | emptyGroup
  | failedAssertion
  deriving DecidableEq

/-- The two ways not to get a result: a failure that is reported, and the end of the program. -/
inductive Stop
  | failure (cause : Failure)
  | trap (cause : Trap)
  deriving DecidableEq

section

variable {α : Type}

def trapUnless (condition : Prop) [Decidable condition] (cause : Trap) (result : α) :
    Except Stop α :=
  if condition then .ok result else .error (.trap cause)

theorem trapUnless_of {condition : Prop} [Decidable condition] (holds : condition) (cause : Trap)
    (result : α) : trapUnless condition cause result = .ok result :=
  if_pos holds

theorem trapUnless_eq_ok_iff {condition : Prop} [Decidable condition] {cause : Trap}
    {result value : α} : trapUnless condition cause result = .ok value ↔ condition ∧ value = result := by
  rw [trapUnless]
  by_cases holds : condition
  · simp [holds, eq_comm]
  · simp [holds]

def item (items : List α) (index : Nat) : Except Stop α :=
  match items[index]? with
  | some found => .ok found
  | none => .error (.trap .indexOutOfRange)

theorem item_of_getElem? {items : List α} {index : Nat} {found : α}
    (present : items[index]? = some found) : item items index = .ok found := by
  rw [item, present]

end

def assert (condition : Prop) [Decidable condition] : Except Stop Unit :=
  trapUnless condition .failedAssertion ()

def add (bits left right : Nat) : Except Stop Nat :=
  trapUnless (left + right < 2 ^ bits) .overflow (left + right)

def sub (left right : Nat) : Except Stop Nat :=
  trapUnless (right ≤ left) .overflow (left - right)

def mul (bits left right : Nat) : Except Stop Nat :=
  trapUnless (left * right < 2 ^ bits) .overflow (left * right)

def div (left right : Nat) : Except Stop Nat :=
  trapUnless (right ≠ 0) .divisionByZero (left / right)

def rem (left right : Nat) : Except Stop Nat :=
  trapUnless (right ≠ 0) .divisionByZero (left % right)

def divideUp (number divisor : Nat) : Except Stop Nat := do
  let whole ← div number divisor
  if (← rem number divisor) = 0 then return whole else add 32 whole 1

theorem add_sub_one_div (number : Nat) {divisor : Nat} (positive : 0 < divisor) :
    (number + divisor - 1) / divisor =
      if number % divisor = 0 then number / divisor else number / divisor + 1 := by
  have parts := Nat.div_add_mod' number divisor
  have rest := Nat.mod_lt number positive
  have next := Nat.add_one_mul (number / divisor) divisor
  split
  · exact Nat.div_eq_of_lt_le (by omega) (by omega)
  · have following := Nat.add_one_mul (number / divisor + 1) divisor
    exact Nat.div_eq_of_lt_le (by omega) (by omega)

theorem divideUp_eq_ok {number divisor : Nat} (small : number < 2 ^ 32) (positive : 0 < divisor) :
    divideUp number divisor = .ok ((number + divisor - 1) / divisor) := by
  have nonzero := Nat.ne_of_gt positive
  rw [divideUp, div, rem, trapUnless_of nonzero, trapUnless_of nonzero,
    add_sub_one_div number positive]
  simp only [bind, Except.bind]
  split
  · rfl
  · -- With something left over the quotient is below the number, so one more is no larger than it.
    have parts := Nat.div_add_mod' number divisor
    have quotient := Nat.le_mul_of_pos_right (number / divisor) positive
    exact trapUnless_of (by omega) _ _

def shiftLeft (bits number count : Nat) : Except Stop Nat :=
  trapUnless (count < bits) .oversizedShift ((number <<< count) % 2 ^ bits)

def shiftRight (bits number count : Nat) : Except Stop Nat :=
  trapUnless (count < bits) .oversizedShift (number >>> count)

/-- A word as it is stored: its bits in bytes, the least significant first. -/
structure Cells where
  width : Nat
  bytes : List UInt8
  deriving DecidableEq

namespace Cells

def zeroed (width : Nat) : Cells :=
  ⟨width, List.replicate (Word.byteCount width) 0⟩

def bit (cells : Cells) (index : Nat) : Except Stop Bool := do
  assert (index < cells.width)
  let byte ← item cells.bytes (index / 8)
  return (← shiftRight 8 byte.toNat (index % 8)) % 2 == 1

def setBit (cells : Cells) (index : Nat) (value : Bool) : Except Stop Cells := do
  assert (index < cells.width)
  let byte ← item cells.bytes (index / 8)
  let mask := UInt8.ofNat (← shiftLeft 8 1 (index % 8))
  let changed := if value then byte ||| mask else byte &&& ~~~mask
  return ⟨cells.width, cells.bytes.set (index / 8) changed⟩

def assertField (cells : Cells) (offset length : Nat) : Except Stop Unit := do
  assert (length ≤ Word.fieldLimit)
  assert ((← add 32 offset length) ≤ cells.width)

def gather (cells : Cells) (offset number index : Nat) : Except Stop Nat := do
  let bit ← cells.bit (← add 32 offset index)
  return number ||| (← shiftLeft 64 bit.toNat index)

def getBits (cells : Cells) (offset length : Nat) : Except Stop Nat := do
  cells.assertField offset length
  (List.range length).foldlM (cells.gather offset) 0

def scatter (offset value : Nat) (cells : Cells) (index : Nat) : Except Stop Cells := do
  let position ← add 32 offset index
  cells.setBit position ((← shiftRight 64 value index) % 2 == 1)

def setBits (cells : Cells) (offset length value : Nat) : Except Stop Cells := do
  cells.assertField offset length
  (List.range length).foldlM (scatter offset value) cells

def ofWord (word : Word) : Cells :=
  ⟨word.width, word.bytes⟩

theorem ofWord_zero (width : Nat) : ofWord (.zero width) = zeroed width := by
  have zeros : (Word.zero width).bytes = List.replicate (Word.byteCount width) 0 :=
    List.eq_replicate_iff.2 ⟨by simp [Word.bytes, Word.zero], by simp [Word.bytes, Word.zero]⟩
  rw [ofWord, zeros]
  rfl

theorem shiftRight_mod_two (number place : Nat) :
    (number >>> place % 2 == 1) = number.testBit place := by
  rw [Nat.testBit_eq_decide_div_mod_eq, Nat.shiftRight_eq_div_pow]
  rfl

theorem testBit_ofNat (number : Nat) {place : Nat} (small : place < 8) :
    (UInt8.ofNat number).toNat.testBit place = number.testBit place := by
  rw [UInt8.toNat_ofNat', Nat.testBit_mod_two_pow, decide_eq_true small, Bool.true_and]

theorem eq_of_testBit {left right : UInt8}
    (same : ∀ place < 8, left.toNat.testBit place = right.toNat.testBit place) : left = right := by
  refine UInt8.toNat_inj.1 (Nat.eq_of_testBit_eq fun place => ?_)
  by_cases small : place < 8
  · exact same place small
  · have high (byte : UInt8) : byte.toNat.testBit place = false :=
      Nat.testBit_lt_two_pow (Nat.lt_of_lt_of_le byte.toNat_lt (Nat.pow_le_pow_right (by decide)
        (Nat.le_of_not_lt small)))
    rw [high, high]

theorem testBit_masked (byte : UInt8) {index place : Nat} (inside : index < 8) (small : place < 8)
    (value : Bool) :
    (if value then byte ||| UInt8.ofNat ((1 <<< index) % 2 ^ 8)
      else byte &&& ~~~UInt8.ofNat ((1 <<< index) % 2 ^ 8)).toNat.testBit place =
      if place = index then value else byte.toNat.testBit place := by
  have mask : (UInt8.ofNat ((1 <<< index) % 2 ^ 8)).toNat = 2 ^ index := by
    have bound : (2 : Nat) ^ index < 2 ^ 8 := Nat.pow_lt_pow_right Nat.one_lt_two inside
    rw [UInt8.toNat_ofNat', Nat.mod_mod, Nat.one_shiftLeft, Nat.mod_eq_of_lt bound]
  cases value with
  | true =>
      rw [if_pos rfl, UInt8.toNat_or, mask, Nat.testBit_or, Nat.testBit_two_pow]
      by_cases here : place = index
      · simp [here]
      · simp [here, Ne.symm here]
  | false =>
      have bound : (2 : Nat) ^ index < 2 ^ 8 := Nat.pow_lt_pow_right Nat.one_lt_two inside
      have inverse : UInt8.size - 1 - 2 ^ index = 2 ^ 8 - (2 ^ index + 1) := by
        rw [Nat.sub_sub, Nat.add_comm]
        rfl
      rw [if_neg (by decide), UInt8.toNat_and, UInt8.toNat_not, mask, inverse, Nat.testBit_and,
        Nat.testBit_two_pow_sub_succ bound, Nat.testBit_two_pow]
      by_cases here : place = index
      · simp [here]
      · simp [here, Ne.symm here, small]

theorem byte_ofWord (word : Word) {index : Nat} (inside : index < word.width) :
    item (ofWord word).bytes (index / 8) =
      .ok (UInt8.ofNat (word.value >>> (8 * (index / 8)))) := by
  have stored : index / 8 < Word.byteCount word.width := by
    rw [Word.byteCount]
    omega
  exact item_of_getElem? (by simp [ofWord, Word.bytes, stored])

theorem bit_ofWord {word : Word} {index : Nat} {value : Bool}
    (success : word.bit index = .ok value) : (ofWord word).bit index = .ok value := by
  obtain ⟨inside, rfl⟩ := Word.lt_of_bit success
  have width : index < (ofWord word).width := inside
  have small : index % 8 < 8 := Nat.mod_lt _ (by decide)
  have place : 8 * (index / 8) + index % 8 = index := Nat.div_add_mod _ _
  rw [bit, assert, trapUnless_of width, byte_ofWord word inside]
  simp only [bind, Except.bind, shiftRight, trapUnless_of small, pure, Except.pure]
  rw [shiftRight_mod_two, testBit_ofNat _ small, Nat.testBit_shiftRight, place]

theorem setBit_ofWord {word next : Word} {index : Nat} {value : Bool}
    (success : word.setBit index value = .ok next) :
    (ofWord word).setBit index value = .ok (ofWord next) := by
  have inside := (Word.lt_of_setBit success).1
  obtain ⟨same, written, sameWidth, bits⟩ := word.setBit_of_lt index value inside
  obtain rfl : next = same := Except.ok.inj (success.symm.trans written)
  have width : index < (ofWord word).width := inside
  have small : index % 8 < 8 := Nat.mod_lt _ (by decide)
  rw [setBit, assert, trapUnless_of width, byte_ofWord word inside]
  simp only [bind, Except.bind, shiftLeft, trapUnless_of small, pure, Except.pure]
  -- The byte that holds the bit is the only one that differs.
  refine congrArg Except.ok (congr (congrArg Cells.mk sameWidth.symm) ?_)
  refine List.ext_getElem (by simp [ofWord, Word.bytes, sameWidth]) fun place _ bound => ?_
  refine eq_of_testBit fun position few => ?_
  simp only [ofWord, Word.bytes, List.getElem_map, List.getElem_range, testBit_ofNat _ few,
    Nat.testBit_shiftRight, bits, List.getElem_set]
  by_cases here : index / 8 = place
  · subst here
    rw [if_pos rfl, testBit_masked _ small few, testBit_ofNat _ few, Nat.testBit_shiftRight]
    congr 1
    simp only [eq_iff_iff]
    omega
  · rw [if_neg here, testBit_ofNat _ few, Nat.testBit_shiftRight, if_neg (by omega)]

section

variable {word : Word} {offset length : Nat}

theorem le_of_fieldFits (fits : word.fieldFits offset length = true) :
    length ≤ 64 ∧ offset + length ≤ word.width := by
  have limit : Word.fieldLimit = 64 := rfl
  simpa only [limit, Word.fieldFits, Bool.and_eq_true, decide_eq_true_eq] using fits

theorem assertField_ofWord (small : word.width < 2 ^ 32)
    (fits : word.fieldFits offset length = true) : (ofWord word).assertField offset length = .ok () := by
  obtain ⟨short, inside⟩ := le_of_fieldFits fits
  have field : length ≤ Word.fieldLimit := short
  have width : offset + length ≤ (ofWord word).width := inside
  rw [assertField, assert, trapUnless_of field, add, trapUnless_of (by omega)]
  simp only [bind, Except.bind, assert, trapUnless_of width]

theorem gather_ofWord (small : word.width < 2 ^ 32) (short : length < 64)
    (inside : offset + length < word.width) :
    (ofWord word).gather offset (word.value >>> offset % 2 ^ length) length =
      .ok (word.value >>> offset % 2 ^ (length + 1)) := by
  rw [gather, add, trapUnless_of (by omega)]
  simp only [bind, Except.bind, bit_ofWord (word.bit_of_lt _ inside), shiftLeft, trapUnless_of short, pure,
    Except.pure]
  refine congrArg Except.ok (Nat.eq_of_testBit_eq fun position => ?_)
  rw [Nat.testBit_or, Nat.testBit_mod_two_pow, Nat.testBit_mod_two_pow, Nat.testBit_mod_two_pow,
    Nat.testBit_shiftLeft, Nat.testBit_shiftRight]
  rcases Nat.lt_trichotomy position length with below | rfl | above
  · simp [below, show ¬length ≤ position by omega, show position < length + 1 by omega]
  · cases word.value.testBit (offset + position) <;> simp [short]
  · have high (bit : Bool) : bit.toNat.testBit (position - length) = false :=
      Nat.testBit_lt_two_pow (Nat.lt_of_lt_of_le (Bool.toNat_lt bit)
        (Nat.pow_le_pow_right Nat.two_pos (by omega : 1 ≤ position - length)))
    simp [high, show ¬position < length by omega, show ¬position < length + 1 by omega]

theorem getBits_ofWord {number : Nat} (small : word.width < 2 ^ 32)
    (success : word.field offset length = .ok number) :
    (ofWord word).getBits offset length = .ok number := by
  obtain ⟨fits, rfl⟩ := Word.fits_of_field success
  have read : ∀ count, count ≤ 64 → offset + count ≤ word.width →
      (List.range count).foldlM ((ofWord word).gather offset) 0 =
        .ok (word.value >>> offset % 2 ^ count) := by
    -- Induction on the bits read so far, the lowest first.
    intro count
    induction count with
    | zero => simp [Nat.mod_one, pure, Except.pure]
    | succ count ih =>
        intro short inside
        rw [List.range_succ, List.foldlM_append, ih (by omega) (by omega)]
        simp only [bind, Except.bind, List.foldlM_cons, List.foldlM_nil]
        rw [gather_ofWord small (by omega) (by omega)]
        rfl
  obtain ⟨short, inside⟩ := le_of_fieldFits fits
  rw [getBits, assertField_ofWord small fits]
  exact read length short inside

theorem scatter_ofWord {value : Nat} {written : Word} (small : word.width < 2 ^ 32)
    (short : length < 64) (inside : offset + length < word.width)
    (sameWidth : written.width = word.width)
    (sofar : written.value = Word.replaceBits word.value offset length value) :
    ∃ next, scatter offset value (ofWord written) length = .ok (ofWord next) ∧
      next.width = word.width ∧
      next.value = Word.replaceBits word.value offset (length + 1) value := by
  obtain ⟨next, success, nextWidth, bits⟩ := written.setBit_of_lt (offset + length)
    (value.testBit length) (by omega)
  refine ⟨next, ?_, nextWidth.trans sameWidth, Nat.eq_of_testBit_eq fun position => ?_⟩
  · rw [scatter, add, trapUnless_of (by omega)]
    simp only [bind, Except.bind, shiftRight, trapUnless_of short, shiftRight_mod_two,
      setBit_ofWord success]
  · rw [bits, sofar, Word.testBit_replaceBits, Word.testBit_replaceBits]
    rcases Nat.lt_trichotomy position (offset + length) with below | rfl | above
    · simp [below, show position ≠ offset + length by omega,
        show position < offset + (length + 1) by omega]
    · simp [show offset + length < offset + (length + 1) by omega,
        show ¬offset + length < offset by omega]
    · simp [show position ≠ offset + length by omega, show ¬position < offset by omega,
        show ¬position < offset + length by omega, show ¬position < offset + (length + 1) by omega]

theorem setBits_ofWord {next : Word} {value : Nat} (small : word.width < 2 ^ 32)
    (success : word.setField offset length value = .ok next) :
    (ofWord word).setBits offset length value = .ok (ofWord next) := by
  obtain ⟨fits, nextWidth, nextValue⟩ := Word.fits_of_setField success
  have write : ∀ count, count ≤ 64 → offset + count ≤ word.width →
      ∃ next, (List.range count).foldlM (scatter offset value) (ofWord word) = .ok (ofWord next) ∧
        next.width = word.width ∧ next.value = Word.replaceBits word.value offset count value := by
    -- After so many bits the word is as if a field of that length had been written.
    intro count
    induction count with
    | zero =>
        refine fun _ _ => ⟨word, rfl, rfl, Nat.eq_of_testBit_eq fun position => ?_⟩
        rw [Word.testBit_replaceBits, Nat.add_zero]
        by_cases below : position < offset <;> simp [below]
    | succ count ih =>
        intro short inside
        obtain ⟨written, success, sameWidth, sofar⟩ := ih (by omega) (by omega)
        obtain ⟨next, stepped, done⟩ := scatter_ofWord small (by omega) (by omega) sameWidth sofar
        refine ⟨next, ?_, done⟩
        rw [List.range_succ, List.foldlM_append, success]
        simp only [bind, Except.bind, List.foldlM_cons, List.foldlM_nil, stepped]
        rfl
  obtain ⟨short, inside⟩ := le_of_fieldFits fits
  obtain ⟨written, finished, sameWidth, sameValue⟩ := write length short inside
  obtain rfl : next = written :=
    Word.eq_of_value (nextWidth.trans sameWidth.symm) (nextValue.trans sameValue.symm)
  rw [setBits, assertField_ofWord small fits]
  exact finished

end

end Cells

end StreamWidth.Machine
