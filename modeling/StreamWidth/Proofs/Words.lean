import StreamWidth.BitStream

/-!
What reading and writing do to the bits of a word: a write reaches its own bits and no other.
-/

namespace StreamWidth.Word

open BitStream (lowBits)

theorem eq_of_value {left right : Word} (width : left.width = right.width)
    (value : left.value = right.value) : left = right := by
  cases left
  cases right
  cases width
  cases value
  rfl

theorem bit_of_lt (word : Word) (index : Nat) (inside : index < word.width) :
    word.bit index = .ok (word.value.testBit index) :=
  if_pos inside

theorem setBit_of_lt (word : Word) (index : Nat) (bit : Bool) (inside : index < word.width) :
    ∃ next, word.setBit index bit = .ok next ∧ next.width = word.width ∧
      ∀ position, next.value.testBit position =
        if position = index then bit else word.value.testBit position := by
  by_cases same : word.value.testBit index = bit
  · refine ⟨word, by simp [setBit, inside, same], rfl, fun position => ?_⟩
    by_cases here : position = index
    · simp [here, same]
    · simp [here]
  · refine ⟨⟨word.width, word.value ^^^ 2 ^ index, Nat.xor_lt_two_pow word.bounded
      (Nat.pow_lt_pow_right Nat.one_lt_two inside)⟩, by simp [setBit, inside, same], rfl,
      fun position => ?_⟩
    by_cases here : position = index
    · subst here
      cases bit <;> simp_all
    · simp [here, Ne.symm here]

/-- The bits below a write are what they were, and then come those of the number written. -/
theorem lowBits_replaceBits (number offset length value : Nat) :
    lowBits (offset + length) (replaceBits number offset length value) =
      lowBits offset number ++ lowBits length value := by
  have below : replaceBits number offset length value % 2 ^ offset = number % 2 ^ offset := by
    rw [replaceBits, Nat.add_mul_mod_self_left, Nat.mod_mod]
  have above : replaceBits number offset length value >>> offset =
      value % 2 ^ length + 2 ^ length * (number >>> (offset + length)) := by
    rw [replaceBits, Nat.shiftRight_eq_div_pow, Nat.add_mul_div_left _ _ (Nat.two_pow_pos offset),
      Nat.div_eq_of_lt (Nat.mod_lt _ (Nat.two_pow_pos offset)), Nat.zero_add]
  have written : (value % 2 ^ length + 2 ^ length * (number >>> (offset + length))) % 2 ^ length =
      value % 2 ^ length := by
    rw [Nat.add_mul_mod_self_left, Nat.mod_mod]
  rw [BitStream.lowBits_add, above, ← BitStream.lowBits_mod offset, below, BitStream.lowBits_mod,
    ← BitStream.lowBits_mod length, written, BitStream.lowBits_mod]

theorem testBit_replaceBits (number offset length value position : Nat) :
    (replaceBits number offset length value).testBit position =
      if position < offset then number.testBit position
      else if position < offset + length then value.testBit (position - offset)
      else number.testBit position := by
  have low : number % 2 ^ offset < 2 ^ offset := Nat.mod_lt _ (Nat.two_pow_pos offset)
  have written : value % 2 ^ length < 2 ^ length := Nat.mod_lt _ (Nat.two_pow_pos length)
  rw [replaceBits, Nat.add_comm (number % 2 ^ offset), Nat.testBit_two_pow_mul_add _ low,
    Nat.add_comm (value % 2 ^ length), Nat.testBit_two_pow_mul_add _ written]
  split
  · rename_i below
    simp [below]
  · rename_i above
    by_cases inside : position < offset + length
    · have place : position - offset < length := by omega
      simp [inside, place]
    · have beyond : ¬position - offset < length := by omega
      have place : offset + length + (position - offset - length) = position := by omega
      rw [if_neg beyond, if_neg inside, Nat.testBit_shiftRight, place]

theorem fieldFits_of_le {word : Word} {offset length : Nat} (short : length ≤ fieldLimit)
    (inside : offset + length ≤ word.width) : word.fieldFits offset length = true := by
  simp [fieldFits, short, inside]

theorem fits_of_field {word : Word} {offset length number : Nat}
    (read : word.field offset length = .ok number) :
    word.fieldFits offset length = true ∧ number = (word.value >>> offset) % 2 ^ length := by
  rw [field] at read
  split at read
  · rename_i fits
    exact ⟨fits, (Except.ok.inj read).symm⟩
  · simp at read

theorem fits_of_setField {word next : Word} {offset length value : Nat}
    (written : word.setField offset length value = .ok next) :
    word.fieldFits offset length = true ∧ next.width = word.width ∧
      next.value = replaceBits word.value offset length value := by
  rw [setField] at written
  split at written
  · rename_i fits
    obtain rfl := Except.ok.inj written
    exact ⟨fits, rfl, rfl⟩
  · simp at written

theorem lt_of_bit {word : Word} {index : Nat} {bit : Bool} (read : word.bit index = .ok bit) :
    index < word.width ∧ bit = word.value.testBit index := by
  rw [Word.bit] at read
  split at read
  · rename_i inside
    exact ⟨inside, (Except.ok.inj read).symm⟩
  · simp at read

theorem lt_of_setBit {word next : Word} {index : Nat} {bit : Bool}
    (written : word.setBit index bit = .ok next) :
    index < word.width ∧ next.width = word.width := by
  have inside : index < word.width :=
    Decidable.byContradiction fun outside => by simp [setBit, outside] at written
  obtain ⟨same, success, sameWidth, _⟩ := word.setBit_of_lt index bit inside
  obtain rfl : next = same := Except.ok.inj (written.symm.trans success)
  exact ⟨inside, sameWidth⟩

theorem field_of_fits {word : Word} {offset length : Nat}
    (fits : word.fieldFits offset length = true) :
    word.field offset length = .ok ((word.value >>> offset) % 2 ^ length) :=
  if_pos fits

theorem setField_of_fits {word : Word} {offset length : Nat} (value : Nat)
    (fits : word.fieldFits offset length = true) :
    ∃ next, word.setField offset length value = .ok next ∧ next.width = word.width ∧
      next.value = replaceBits word.value offset length value :=
  ⟨_, dif_pos fits, rfl, rfl⟩

end StreamWidth.Word
