import StreamWidth.Proofs.Converters
import StreamWidth.Proofs.Hexadecimal
import StreamWidth.Proofs.Machine.Words
import StreamWidth.Proofs.Packing

/-!
Words in hexadecimal, written and read digit by digit and bit by bit by a machine that stops where a
number overflows. What the machine writes and reads are the words as numbers, and it never stops.
-/

namespace StreamWidth

namespace Word

open Text (IsHexDigit lowNumber)

theorem exists_setBit_true (word : Word) {index : Nat} (inside : index < word.width)
    (free : word.value < 2 ^ index) :
    ∃ next, word.setBit index true = .ok next ∧ next.width = word.width ∧
      next.value = word.value + 2 ^ index := by
  obtain ⟨next, success, sameWidth, bits⟩ := word.setBit_of_lt index true inside
  refine ⟨next, success, sameWidth, Nat.eq_of_testBit_eq fun position => ?_⟩
  have sum := Nat.testBit_two_pow_mul_add 1 free position
  rw [Nat.mul_one, Nat.add_comm] at sum
  rw [bits, sum]
  rcases Nat.lt_trichotomy position index with below | rfl | above
  · simp [below, Nat.ne_of_lt below]
  · simp
  · have high : word.value.testBit position = false := Nat.testBit_lt_two_pow
      (Nat.lt_trans free (Nat.pow_lt_pow_right Nat.one_lt_two above))
    have one : Nat.testBit 1 (position - index) = false :=
      Nat.testBit_lt_two_pow (Nat.one_lt_two_pow (by omega))
    simp [Nat.ne_of_gt above, Nat.not_lt_of_gt above, high, one]

/-- Reading puts the digits of the text, the last one first, together to a number. -/
theorem ofHex?_eq_fit? (width : Nat) (text : List Char) :
    ofHex? width text =
      if withoutHexMark (Text.trimChars text) = [] then none
      else if (withoutHexMark (Text.trimChars text)).reverse.all (IsHexDigit ·) then
        fit? width (lowNumber (withoutHexMark (Text.trimChars text)).reverse)
      else none := by
  refine Option.ext fun word => ?_
  simp only [ofHex?_eq_some_iff, spells_iff, List.all_reverse, List.all_eq_true,
    decide_eq_true_eq]
  split
  · rename_i empty
    refine ⟨?_, fun found => by simp at found⟩
    rintro ⟨_, digits, ⟨nonempty, _, rfl⟩, _⟩
    exact absurd empty nonempty
  · rename_i nonempty
    split
    · rename_i hexadecimal
      rw [fit?_eq_some_iff]
      refine and_congr_right fun _ => ⟨?_, fun value => ⟨_, ⟨nonempty, hexadecimal, rfl⟩, value⟩⟩
      rintro ⟨digits, ⟨_, _, rfl⟩, value⟩
      exact value
    · rename_i foreign
      refine ⟨?_, fun found => by simp at found⟩
      rintro ⟨_, digits, ⟨_, hexadecimal, rfl⟩, _⟩
      exact absurd hexadecimal foreign

end Word

namespace Machine

theorem of_assert {condition : Prop} [Decidable condition] {result : Unit}
    (success : assert condition = .ok result) : condition :=
  (trapUnless_eq_ok_iff.1 success).1

theorem divideUp_four {number : Nat} (small : number < 2 ^ 32) :
    divideUp number 4 = .ok ((number + 3) / 4) :=
  divideUp_eq_ok small (show 0 < 4 by decide)

namespace Cells

def digit (cells : Cells) (place : Nat) : Except Stop Char := do
  let low ← mul 32 place 4
  let number := (← cells.getBits low (min 4 (← sub cells.width low))) % 2 ^ 32
  return if number < 16 then Nat.digitChar number else '0'

def hexText (cells : Cells) : Except Stop (List Char) := do
  let count ← divideUp cells.width 4
  let digits ← (List.range count).reverse.mapM cells.digit
  return '0' :: 'x' :: digits

def setDigit (position digit : Nat) : List Nat → Cells → Except Stop (Option Cells)
  | [], cells => return some cells
  | place :: rest, cells => do
      if (← shiftRight 32 digit place) % 2 = 0 then setDigit position digit rest cells
      else
        let index ← add 32 (← mul 32 (position % 2 ^ 32) 4) place
        if cells.width ≤ index then return none
        else setDigit position digit rest (← cells.setBit index true)

def setDigits : Nat → List Char → Cells → Except Stop (Option Cells)
  | _, [], cells => return some cells
  | position, c :: rest, cells =>
      match Text.digit? 16 c with
      | none => return none
      | some digit => do
          match ← setDigit position digit (List.range 4) cells with
          | none => return none
          | some next => setDigits (position + 1) rest next

def fromHex (width : Nat) (text : List Char) : Except Stop (Option Cells) :=
  let digits := Word.withoutHexMark (Text.trimChars text)
  if digits = [] then return none else setDigits 0 digits.reverse (zeroed width)

section Writing

variable {word : Word} (small : word.width < 2 ^ 32)
include small

theorem digit_ofWord {place : Nat} (inside : place < (word.width + 3) / 4) :
    (ofWord word).digit place = .ok (Nat.digitChar ((word.value >>> (4 * place)) % 16)) := by
  have width : (ofWord word).width = word.width := rfl
  have fits : word.fieldFits (place * 4) (min 4 (word.width - place * 4)) = true :=
    Word.fieldFits_of_le (Nat.le_trans (Nat.min_le_left _ _) (by decide)) (by omega)
  -- Where the highest digit is cut off, nothing of the number is lost.
  have nibble : word.value >>> (place * 4) % 2 ^ min 4 (word.width - place * 4) =
      word.value >>> (4 * place) % 16 := by
    rw [Nat.mul_comm place 4]
    by_cases whole : 4 ≤ word.width - 4 * place
    · rw [Nat.min_eq_left whole]
      rfl
    · have bounded : word.value >>> (4 * place) < 2 ^ (word.width - 4 * place) := by
        rw [Nat.shiftRight_eq_div_pow]
        refine Nat.div_lt_of_lt_mul ?_
        rw [← Nat.pow_add, Nat.add_sub_cancel' (by omega)]
        exact word.bounded
      have below : word.value >>> (4 * place) < 16 := Nat.lt_of_lt_of_le bounded
        (Nat.pow_le_pow_right (by decide) (by omega : word.width - 4 * place ≤ 4))
      rw [Nat.min_eq_right (by omega), Nat.mod_eq_of_lt bounded, Nat.mod_eq_of_lt below]
  have sixteen : word.value >>> (4 * place) % 16 < 16 := Nat.mod_lt _ (by decide)
  have read := getBits_ofWord small (Word.field_of_fits fits)
  rw [nibble] at read
  rw [digit, mul, trapUnless_of (by omega)]
  simp only [bind, Except.bind, width, sub, trapUnless_of (show place * 4 ≤ word.width by omega),
    read, pure, Except.pure]
  rw [Nat.mod_eq_of_lt (Nat.lt_trans sixteen (by decide)), if_pos sixteen]

theorem hexText_ofWord : (ofWord word).hexText = .ok word.hexText.toList := by
  have each : ∀ place ∈ (List.range ((word.width + 3) / 4)).reverse,
      (ofWord word).digit place = .ok (Nat.digitChar ((word.value >>> (4 * place)) % 16)) :=
    fun place member => digit_ofWord small (List.mem_range.1 (List.mem_reverse.1 member))
  have width : (ofWord word).width = word.width := rfl
  rw [hexText, width, divideUp_four small]
  simp only [bind, Except.bind, mapM_eq_ok _ each]
  simp [Word.hexText, Word.hexDigits, Word.hexDigitCount, pure, Except.pure]

end Writing

section Reading

open Text (IsHexDigit hexValue lowNumber)

theorem shiftRight_mod_two_pow_succ (number place count : Nat) :
    number >>> place % 2 ^ (count + 1) =
      number >>> place % 2 + 2 * (number >>> (place + 1) % 2 ^ count) := by
  rw [Nat.pow_succ, Nat.mul_comm, Nat.mod_mul, Nat.shiftRight_succ]

theorem setDigit_cons {position place : Nat} (few : 4 * position + 4 ≤ 2 ^ 32) (short : place < 4)
    (digit : Nat) (rest : List Nat) (cells : Cells) :
    setDigit position digit (place :: rest) cells =
      if digit >>> place % 2 = 0 then setDigit position digit rest cells
      else if cells.width ≤ 4 * position + place then .ok none
      else cells.setBit (4 * position + place) true >>= setDigit position digit rest := by
  have product : position % 2 ^ 32 * 4 < 2 ^ 32 := by omega
  have index : position % 2 ^ 32 * 4 + place = 4 * position + place := by omega
  have sum : 4 * position + place < 2 ^ 32 := by omega
  rw [setDigit, shiftRight, trapUnless_of (by omega)]
  simp only [bind, Except.bind, mul, trapUnless_of product, add, index, trapUnless_of sum]
  rfl

theorem setDigit_ofWord {position digit : Nat} (few : 4 * position + 4 ≤ 2 ^ 32) :
    ∀ (count start : Nat) (word : Word),
      start + count ≤ 4 → word.value < 2 ^ (4 * position + start) →
        setDigit position digit (List.range' start count) (ofWord word) =
          .ok ((Word.fit? word.width (word.value +
            2 ^ (4 * position + start) * (digit >>> start % 2 ^ count))).map ofWord) := by
  intro count
  -- Induction on the bits that are left, of which the lowest comes first.
  induction count with
  | zero =>
      intro start word _ _
      simp [setDigit, Nat.mod_one, Word.fit?_self, pure, Except.pure]
  | succ count ih =>
      intro start word short free
      have width : (ofWord word).width = word.width := rfl
      have next : (2 : Nat) ^ (4 * position + (start + 1)) = 2 ^ (4 * position + start) * 2 := rfl
      have total (bit : Nat) : word.value + 2 ^ (4 * position + start) *
          (bit + 2 * (digit >>> (start + 1) % 2 ^ count)) =
            word.value + 2 ^ (4 * position + start) * bit +
              2 ^ (4 * position + (start + 1)) * (digit >>> (start + 1) % 2 ^ count) := by
        rw [next, Nat.mul_add, Nat.mul_assoc, Nat.add_assoc]
      rw [List.range'_succ, setDigit_cons few (by omega), shiftRight_mod_two_pow_succ, total, width]
      rcases Nat.mod_two_eq_zero_or_one (digit >>> start) with zero | one
      · rw [if_pos zero, ih (start + 1) word (by omega) (by omega), zero, Nat.mul_zero,
          Nat.add_zero word.value]
      · rw [if_neg (by omega), one, Nat.mul_one]
        by_cases outside : word.width ≤ 4 * position + start
        · have full : (2 : Nat) ^ word.width ≤ 2 ^ (4 * position + start) :=
            Nat.pow_le_pow_right Nat.two_pos outside
          rw [if_pos outside, Word.fit?_eq_none_iff.2 (by omega)]
          rfl
        · obtain ⟨set, success, sameWidth, sameValue⟩ :=
            word.exists_setBit_true (Nat.lt_of_not_le outside) free
          rw [if_neg outside, setBit_ofWord success, ← sameWidth, ← sameValue]
          exact ih (start + 1) set (by omega) (by omega)

theorem setDigit_four {position digit : Nat} {word : Word} (few : position < 2 ^ 30)
    (free : word.value < 16 ^ position) (sixteen : digit < 16) :
    setDigit position digit (List.range 4) (ofWord word) =
      .ok ((Word.fit? word.width (word.value + 16 ^ position * digit)).map ofWord) := by
  have nibble : digit % 2 ^ 4 = digit := Nat.mod_eq_of_lt sixteen
  rw [List.range_eq_range', setDigit_ofWord (by omega) 4 0 word (by decide)
    (by rwa [Nat.add_zero, Word.two_pow_four_mul]), Nat.add_zero, Word.two_pow_four_mul,
    Nat.shiftRight_zero, nibble]

theorem setDigits_ofWord : ∀ (digits : List Char) (position : Nat) (word : Word),
    position + digits.length ≤ 2 ^ 30 → word.value < 16 ^ position →
      setDigits position digits (ofWord word) =
        .ok ((if digits.all (IsHexDigit ·) then
          Word.fit? word.width (word.value + 16 ^ position * lowNumber digits)
          else none).map ofWord) := by
  intro digits
  induction digits with
  | nil =>
      intro position word _ _
      simp [setDigits, lowNumber, Word.fit?_self, pure, Except.pure]
  | cons c rest ih =>
      intro position word few free
      rw [List.length_cons] at few
      rw [setDigits, Text.digit?_eq]
      simp only [List.all_cons]
      by_cases hexadecimal : IsHexDigit c
      · have sixteen : hexValue c < 16 := List.idxOf_lt_length_iff.2 hexadecimal
        have total : word.value + 16 ^ position * lowNumber (c :: rest) =
            word.value + 16 ^ position * hexValue c + 16 ^ (position + 1) * lowNumber rest := by
          rw [lowNumber, Nat.mul_add, Nat.pow_succ, Nat.mul_assoc, Nat.add_assoc]
        rw [if_pos hexadecimal, total]
        simp only [setDigit_four (show position < 2 ^ 30 by omega) free sixteen, bind, Except.bind,
          decide_eq_true hexadecimal, Bool.true_and]
        cases found : Word.fit? word.width (word.value + 16 ^ position * hexValue c) with
        | none =>
            -- What has no room yet has none with the digits that follow either.
            have full : Word.fit? word.width (word.value + 16 ^ position * hexValue c +
                16 ^ (position + 1) * lowNumber rest) = none := by
              rw [Word.fit?_eq_none_iff] at found ⊢
              exact Nat.le_trans found (Nat.le_add_right _ _)
            rw [full, ite_self]
            rfl
        | some next =>
            obtain ⟨sameWidth, sameValue⟩ := Word.fit?_eq_some_iff.1 found
            have grown : next.value < 16 ^ (position + 1) := by
              have scaled := Nat.mul_le_mul_left (16 ^ position) (Nat.le_of_lt_succ sixteen)
              rw [sameValue, Nat.pow_succ]
              omega
            rw [← sameValue, ← sameWidth]
            exact ih (position + 1) next (by omega) grown
      · simp [hexadecimal, pure, Except.pure]

theorem fromHex_eq_ok (width : Nat) {text : List Char}
    (few : (Word.withoutHexMark (Text.trimChars text)).length ≤ 2 ^ 30) :
    fromHex width text = .ok ((Word.ofHex? width text).map ofWord) := by
  rw [fromHex, Word.ofHex?_eq_fit?, ← ofWord_zero]
  by_cases empty : Word.withoutHexMark (Text.trimChars text) = []
  · simp only [if_pos empty]
    rfl
  · have digits := setDigits_ofWord (Word.withoutHexMark (Text.trimChars text)).reverse 0
      (.zero width) (by rw [List.length_reverse]; omega) Nat.one_pos
    have same : (Word.zero width).width = width := rfl
    have value : (Word.zero width).value = 0 := rfl
    rw [same, value, Nat.pow_zero, Nat.one_mul, Nat.zero_add] at digits
    simp only [if_neg empty, digits]

end Reading

/-- The words that the operations on stored words lead to. -/
inductive Reached (width : Nat) : Cells → Prop
  | zeroed : Reached width (zeroed width)
  | setBit {cells next : Cells} (index : Nat) (value : Bool) : Reached width cells →
      cells.setBit index value = .ok next → Reached width next
  | setBits {cells next : Cells} (offset length value : Nat) : Reached width cells →
      cells.setBits offset length value = .ok next → Reached width next
  | fromHex {cells : Cells} (text : List Char) : fromHex width text = .ok (some cells) →
      Reached width cells

def Stored (width : Nat) (cells : Cells) : Prop :=
  ∃ word, word.width = width ∧ ofWord word = cells

/-- Whether digits, of which the first goes to the given position, set the bit with the given
index. Positions are counted as machine integers. -/
def digitBit (position : Nat) (digits : List Char) (index : Nat) : Bool :=
  (digits.zipIdx position).any fun (c, place) =>
    place % 2 ^ 32 == index / 4 && (Text.hexValue c).testBit (index % 4)

section Reaching

variable {width : Nat} {cells next : Cells}

theorem stored_zeroed (width : Nat) : Stored width (zeroed width) :=
  ⟨.zero width, rfl, ofWord_zero width⟩

theorem Stored.of_setBit (stored : Stored width cells) {index : Nat} {value : Bool}
    (success : cells.setBit index value = .ok next) : Stored width next := by
  obtain ⟨word, rfl, rfl⟩ := stored
  obtain ⟨_, checked, _⟩ := bind_eq_ok_iff.1 success
  obtain ⟨changed, written, sameWidth, _⟩ := word.setBit_of_lt index value (of_assert checked)
  exact ⟨changed, sameWidth, Except.ok.inj ((setBit_ofWord written).symm.trans success)⟩

theorem Stored.of_setBits (stored : Stored width cells) (small : width < 2 ^ 32)
    {offset length value : Nat} (success : cells.setBits offset length value = .ok next) :
    Stored width next := by
  obtain ⟨word, rfl, rfl⟩ := stored
  obtain ⟨_, checked, _⟩ := bind_eq_ok_iff.1 success
  obtain ⟨_, short, inside⟩ := bind_eq_ok_iff.1 checked
  obtain ⟨sum, added, bounded⟩ := bind_eq_ok_iff.1 inside
  obtain ⟨_, rfl⟩ := trapUnless_eq_ok_iff.1 added
  have fits := Word.fieldFits_of_le (of_assert short) (of_assert bounded)
  obtain ⟨changed, written, sameWidth, _⟩ := Word.setField_of_fits value fits
  exact ⟨changed, sameWidth, Except.ok.inj ((setBits_ofWord small written).symm.trans success)⟩

theorem exists_of_setDigit {position digit : Nat} {places : List Nat} {word : Word}
    (success : setDigit position digit places (ofWord word) = .ok (some next)) :
    ∃ set, ofWord set = next ∧ set.width = word.width ∧ ∀ index, set.value.testBit index =
      (word.value.testBit index ||
        places.any fun place => digit.testBit place && index == position % 2 ^ 32 * 4 + place) := by
  -- A bit that is set is never cleared again by the places that follow.
  induction places generalizing word with
  | nil => exact ⟨word, Option.some.inj (Except.ok.inj success), rfl, fun index => by simp⟩
  | cons place rest ih =>
      obtain ⟨_, shifted, success⟩ := bind_eq_ok_iff.1 success
      obtain ⟨_, rfl⟩ := trapUnless_eq_ok_iff.1 shifted
      have lowest := shiftRight_mod_two digit place
      split at success
      · rename_i clear
        rw [clear] at lowest
        simpa only [List.any_cons, ← lowest, Nat.reduceBEq, Bool.false_and, Bool.false_or] using
          ih success
      · rename_i raised
        obtain ⟨_, scaled, success⟩ := bind_eq_ok_iff.1 success
        obtain ⟨_, rfl⟩ := trapUnless_eq_ok_iff.1 scaled
        obtain ⟨_, added, success⟩ := bind_eq_ok_iff.1 success
        obtain ⟨_, rfl⟩ := trapUnless_eq_ok_iff.1 added
        split at success
        · simp [pure, Except.pure] at success
        · rename_i inside
          obtain ⟨changed, written, sameWidth, bits⟩ :=
            word.setBit_of_lt (position % 2 ^ 32 * 4 + place) true (Nat.lt_of_not_le inside)
          rw [setBit_ofWord written] at success
          obtain ⟨set, rfl, width, sets⟩ := ih success
          refine ⟨set, rfl, width.trans sameWidth, fun index => ?_⟩
          have one : digit.testBit place = true := by
            rw [← lowest, beq_iff_eq]
            omega
          rw [sets, bits, List.any_cons, one, Bool.true_and]
          by_cases here : index = position % 2 ^ 32 * 4 + place
          · rw [if_pos here, beq_iff_eq.2 here, Bool.true_or, Bool.or_true]
          · rw [if_neg here, beq_false_of_ne here, Bool.false_or]

theorem any_range_four (position digit index : Nat) :
    ((List.range 4).any fun place => digit.testBit place && index == position * 4 + place) =
      (position == index / 4 && digit.testBit (index % 4)) := by
  rw [Bool.eq_iff_iff, List.any_eq_true, Bool.and_eq_true, beq_iff_eq]
  constructor
  · rintro ⟨place, few, found⟩
    obtain ⟨bit, here⟩ := Bool.and_eq_true_iff.1 found
    have short := List.mem_range.1 few
    have same := beq_iff_eq.1 here
    exact ⟨by omega, by rwa [show index % 4 = place by omega]⟩
  · rintro ⟨here, bit⟩
    refine ⟨index % 4, List.mem_range.2 (Nat.mod_lt _ (by decide)), ?_⟩
    rw [bit, Bool.true_and, beq_iff_eq]
    omega

theorem exists_of_setDigits {position : Nat} {digits : List Char} {word : Word}
    (success : setDigits position digits (ofWord word) = .ok (some next)) :
    ∃ set, ofWord set = next ∧ set.width = word.width ∧ ∀ index, set.value.testBit index =
      (word.value.testBit index || digitBit position digits index) := by
  induction digits generalizing position word with
  | nil =>
      exact ⟨word, Option.some.inj (Except.ok.inj success), rfl, fun index => by simp [digitBit]⟩
  | cons c rest ih =>
      rw [setDigits, Text.digit?_eq] at success
      split at success
      · simp [pure, Except.pure] at success
      · rename_i digit known
        obtain ⟨_, rfl⟩ : Text.IsHexDigit c ∧ Text.hexValue c = digit := by simpa using known
        obtain ⟨read, written, success⟩ := bind_eq_ok_iff.1 success
        cases read with
        | none => simp [pure, Except.pure] at success
        | some changed =>
            obtain ⟨middle, rfl, sameWidth, bits⟩ := exists_of_setDigit written
            obtain ⟨set, rfl, width, sets⟩ := ih success
            refine ⟨set, rfl, width.trans sameWidth, fun index => ?_⟩
            rw [sets, bits, any_range_four, Bool.or_assoc]
            rfl

theorem exists_of_fromHex {text : List Char} (success : fromHex width text = .ok (some next)) :
    ∃ set, ofWord set = next ∧ set.width = width ∧ ∀ index, set.value.testBit index =
      digitBit 0 (Word.withoutHexMark (Text.trimChars text)).reverse index := by
  rw [fromHex, ← ofWord_zero] at success
  split at success
  · simp [pure, Except.pure] at success
  · obtain ⟨set, same, sameWidth, bits⟩ := exists_of_setDigits success
    exact ⟨set, same, sameWidth, fun index => by simp [bits, Word.zero]⟩

theorem stored_of_fromHex {text : List Char} (success : fromHex width text = .ok (some next)) :
    Stored width next := by
  obtain ⟨set, same, sameWidth, _⟩ := exists_of_fromHex success
  exact ⟨set, sameWidth, same⟩

theorem reached_ofWord (word : Word) : Reached word.width (ofWord word) := by
  have low : ∀ count, count ≤ word.width → ∃ part, part.width = word.width ∧
      part.value = word.value % 2 ^ count ∧ Reached word.width (ofWord part) := by
    intro count
    induction count with
    | zero =>
        exact fun _ => ⟨.zero word.width, rfl, by simp [Word.zero, Nat.mod_one],
          ofWord_zero word.width ▸ .zeroed⟩
    | succ count ih =>
        intro inside
        obtain ⟨part, sameWidth, value, reached⟩ := ih (by omega)
        rw [Nat.pow_succ, Nat.mod_mul, ← value]
        rcases Nat.mod_two_eq_zero_or_one (word.value / 2 ^ count) with zero | one
        · exact ⟨part, sameWidth, by rw [zero, Nat.mul_zero, Nat.add_zero], reached⟩
        · have free : part.value < 2 ^ count := value ▸ Nat.mod_lt _ (Nat.two_pow_pos count)
          obtain ⟨next, success, nextWidth, nextValue⟩ :=
            part.exists_setBit_true (by omega : count < part.width) free
          refine ⟨next, nextWidth.trans sameWidth, by rw [nextValue, one, Nat.mul_one], ?_⟩
          exact .setBit count true reached (setBit_ofWord success)
  obtain ⟨part, sameWidth, value, reached⟩ := low word.width (Nat.le_refl _)
  rw [Nat.mod_eq_of_lt word.bounded] at value
  exact Word.eq_of_value sameWidth value ▸ reached

theorem reached_iff (small : width < 2 ^ 32) (cells : Cells) :
    Reached width cells ↔ Stored width cells := by
  constructor
  · intro reached
    induction reached with
    | zeroed => exact stored_zeroed width
    | setBit index value _ success ih => exact ih.of_setBit success
    | setBits offset length value _ success ih => exact ih.of_setBits small success
    | fromHex text success => exact stored_of_fromHex success
  · rintro ⟨word, rfl, rfl⟩
    exact reached_ofWord word

end Reaching

/-- The stored words are exactly the numbers of their width. Each is written with the digits of its
number and read back from them; and a text is read exactly if it spells a number of the width, as
the word of that number. No text that is not too long stops the machine. -/
theorem hex_exact {width : Nat} (positive : 0 < width) (small : width < 2 ^ 32) :
    (∀ cells, Reached width cells ↔ Stored width cells) ∧
    (∀ word, word.width = width → ∃ digits, word.Digits digits ∧
      word.hexText = String.ofList ('0' :: 'x' :: digits) ∧
      Word.ofHex? width word.hexText.toList = some word ∧
      (ofWord word).hexText = .ok word.hexText.toList ∧
      fromHex width word.hexText.toList = .ok (some (ofWord word))) ∧
    ∀ text,
      (∀ word, Word.ofHex? width text = some word ↔ word.width = width ∧
        ∃ digits, Text.Spells text digits ∧ word.value = Text.hexNumber digits) ∧
      ((∃ word, Word.ofHex? width text = some word) ↔
        ∃ digits, Text.Spells text digits ∧ Text.hexNumber digits < 2 ^ width) ∧
      (text.length ≤ 2 ^ 30 →
        fromHex width text = .ok ((Word.ofHex? width text).map ofWord)) := by
  refine ⟨reached_iff small, ?_, fun text => ⟨Word.ofHex?_eq_some_iff width text,
    Word.exists_ofHex?_iff width text, fun few => ?_⟩⟩
  · rintro word rfl
    have read := Word.ofHex?_hexText positive
    have spelled := ((Word.spells_iff _ _).1 (Word.spells_hexText positive)).2.2
    refine ⟨word.hexDigits, word.digits_hexDigits, rfl, read, hexText_ofWord small, ?_⟩
    rw [fromHex_eq_ok, read]
    · rfl
    · rw [spelled, Word.hexDigits_length]
      omega
  · exact fromHex_eq_ok width (Nat.le_trans (Word.digits_length_le text) few)

theorem hex_exact_tenBits : ((0 : Nat) < 10 ∧ (10 : Nat) < 2 ^ 32) ∧
    (ofWord (.ofNat 10 0x2a5)).hexText = .ok ['0', 'x', '2', 'a', '5'] ∧
    fromHex 10 [' ', '0', 'X', '0', '0', '2', 'A', '5', '\n'] =
      .ok (some (ofWord (.ofNat 10 0x2a5))) ∧
    fromHex 10 ['4', 'f', 'f'] = .ok none := by
  have exact := @hex_exact 10 (by decide) (by decide)
  obtain ⟨_, _, _, _, written, _⟩ := exact.2.1 (.ofNat 10 0x2a5) rfl
  exact ⟨by decide, written.trans (congrArg Except.ok (by decide)),
    ((exact.2.2 _).2.2 (by decide)).trans (congrArg Except.ok (by decide)),
    ((exact.2.2 _).2.2 (by decide)).trans (congrArg Except.ok (by decide))⟩

end Cells

end Machine

end StreamWidth
