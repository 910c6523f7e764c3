import StreamWidth.Failure

/-!
Words of a stream: numbers that fit a given number of bits. Reading and writing reach no bit
outside the word, and a write leaves every other bit as it was.
-/

namespace StreamWidth

structure Word where
  width : Nat
  value : Nat
  bounded : value < 2 ^ width
  deriving DecidableEq

namespace Word

def zero (width : Nat) : Word :=
  ⟨width, 0, Nat.two_pow_pos width⟩

def ofNat (width value : Nat) : Word :=
  ⟨width, value % 2 ^ width, Nat.mod_lt _ (Nat.two_pow_pos width)⟩

/-- Fields of a word have at most as many bits as a machine integer. -/
def fieldLimit : Nat :=
  64

def bit (word : Word) (index : Nat) : Except Failure Bool :=
  if index < word.width then .ok (word.value.testBit index) else .error (.fault .bitsOutsideWord)

def fieldFits (word : Word) (offset length : Nat) : Bool :=
  length ≤ fieldLimit && offset + length ≤ word.width

def field (word : Word) (offset length : Nat) : Except Failure Nat :=
  if word.fieldFits offset length then .ok ((word.value >>> offset) % 2 ^ length)
  else .error (.fault .bitsOutsideWord)

def replaceBits (number offset length value : Nat) : Nat :=
  number % 2 ^ offset + 2 ^ offset * (value % 2 ^ length + 2 ^ length * (number >>> (offset + length)))

theorem replaceBits_lt (number offset length value width : Nat) (bounded : number < 2 ^ width)
    (inside : offset + length ≤ width) : replaceBits number offset length value < 2 ^ width := by
  have low : number % 2 ^ offset < 2 ^ offset := Nat.mod_lt _ (Nat.two_pow_pos offset)
  have middle : value % 2 ^ length < 2 ^ length := Nat.mod_lt _ (Nat.two_pow_pos length)
  have high : number >>> (offset + length) < 2 ^ (width - (offset + length)) := by
    rw [Nat.shiftRight_eq_div_pow]
    apply Nat.div_lt_of_lt_mul
    rwa [← Nat.pow_add, Nat.add_sub_cancel' inside]
  have upper : value % 2 ^ length + 2 ^ length * (number >>> (offset + length)) <
      2 ^ (length + (width - (offset + length))) := by
    rw [Nat.pow_add]
    calc value % 2 ^ length + 2 ^ length * (number >>> (offset + length))
        < 2 ^ length + 2 ^ length * (number >>> (offset + length)) := Nat.add_lt_add_right middle _
      _ = 2 ^ length * (number >>> (offset + length) + 1) := by
          rw [Nat.mul_add, Nat.mul_one, Nat.add_comm]
      _ ≤ 2 ^ length * 2 ^ (width - (offset + length)) := Nat.mul_le_mul_left _ high
  have whole : offset + (length + (width - (offset + length))) = width := by omega
  calc replaceBits number offset length value
      < 2 ^ offset +
          2 ^ offset * (value % 2 ^ length + 2 ^ length * (number >>> (offset + length))) :=
        Nat.add_lt_add_right low _
    _ = 2 ^ offset *
          (value % 2 ^ length + 2 ^ length * (number >>> (offset + length)) + 1) := by
        rw [Nat.mul_add _ _ 1, Nat.mul_one, Nat.add_comm]
    _ ≤ 2 ^ offset * 2 ^ (length + (width - (offset + length))) := Nat.mul_le_mul_left _ upper
    _ = 2 ^ width := by rw [← Nat.pow_add, whole]

def setField (word : Word) (offset length value : Nat) : Except Failure Word :=
  if fits : word.fieldFits offset length = true then
    .ok ⟨word.width, replaceBits word.value offset length value,
      replaceBits_lt _ _ _ _ _ word.bounded (by simp_all [fieldFits])⟩
  else .error (.fault .bitsOutsideWord)

/-- Writes one bit, which is turned over where it differs from what is asked for. -/
def setBit (word : Word) (index : Nat) (value : Bool) : Except Failure Word :=
  if inside : index < word.width then
    if word.value.testBit index = value then .ok word
    else
      .ok ⟨word.width, word.value ^^^ 2 ^ index,
        Nat.xor_lt_two_pow word.bounded (Nat.pow_lt_pow_right Nat.one_lt_two inside)⟩
  else .error (.fault .bitsOutsideWord)

def byteCount (width : Nat) : Nat :=
  (width + 7) / 8

/-- The word as bytes, least significant first; bits beyond the width are zero. -/
def bytes (word : Word) : List UInt8 :=
  (List.range (byteCount word.width)).map fun index => UInt8.ofNat (word.value >>> (8 * index))

end Word

end StreamWidth
