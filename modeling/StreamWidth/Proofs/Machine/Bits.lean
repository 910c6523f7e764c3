import StreamWidth.Proofs.Machine.Hex

/-!
Stored words as plain bits. Whatever is written to a word and wherever it is loaded from, its bits
change as a function from places to truth values would, and nothing else of it is ever seen: stored
words are equal exactly if their widths and their bits are.
-/

namespace StreamWidth

open Text (IsHexDigit hexValue lowNumber hexNumber)

namespace Machine

def Bits (width : Nat) : Type :=
  Fin width → Bool

namespace Bits

variable {width : Nat}

def zero : Bits width :=
  fun _ => false

def set (bits : Bits width) (index : Nat) (value : Bool) : Bits width :=
  fun place => if place.val = index then value else bits place

def setField (bits : Bits width) (offset length value : Nat) : Bits width :=
  fun place => if offset ≤ place.val ∧ place.val < offset + length then
    value.testBit (place.val - offset) else bits place

def load (text : List Char) : Bits width :=
  fun place => Cells.digitBit 0 (Word.withoutHexMark (Text.trimChars text)).reverse place.val

def get (bits : Bits width) (place : Nat) : Bool :=
  if inside : place < width then bits ⟨place, inside⟩ else false

def number (bits : Bits width) (offset length : Nat) : Nat :=
  (List.range length).foldl
    (fun total index => total + (bits.get (offset + index)).toNat * 2 ^ index) 0

theorem number_eq_mod {bits : Bits width} {offset value : Nat} (length : Nat)
    (same : ∀ index < length, bits.get (offset + index) = value.testBit index) :
    bits.number offset length = value % 2 ^ length := by
  induction length with
  | zero => simp [number, Nat.mod_one]
  | succ length ih =>
      have lower := ih fun index below => same index (Nat.lt_succ_of_lt below)
      rw [number] at lower
      rw [number, List.range_succ, List.foldl_append, lower, List.foldl_cons, List.foldl_nil,
        same length (Nat.lt_succ_self length), Nat.mod_pow_succ, Nat.toNat_testBit, Nat.mul_comm]

theorem get_of_lt (bits : Bits width) {place : Nat} (inside : place < width) :
    bits.get place = bits ⟨place, inside⟩ :=
  dif_pos inside

theorem number_setField (bits : Bits width) {offset length : Nat} (value : Nat)
    (inside : offset + length ≤ width) :
    (bits.setField offset length value).number offset length = value % 2 ^ length := by
  refine number_eq_mod length fun index below => ?_
  rw [get_of_lt _ (by omega), setField, if_pos (by dsimp only; omega), Nat.add_sub_cancel_left]

theorem testBit_lowNumber (digits : List Char) (hexadecimal : ∀ c ∈ digits, IsHexDigit c) :
    ∀ place, (lowNumber digits).testBit place =
      (digits[place / 4]?.elim false fun c => (hexValue c).testBit (place % 4)) := by
  induction digits with
  | nil => simp [lowNumber]
  | cons c rest ih =>
      intro place
      obtain ⟨first, others⟩ := List.forall_mem_cons.1 hexadecimal
      have sixteen : hexValue c < 2 ^ 4 := List.idxOf_lt_length_iff.2 first
      rw [lowNumber, Nat.add_comm, Nat.testBit_two_pow_mul_add (i := 4) _ sixteen]
      -- A digit gives four bits, and the number above it begins behind them.
      by_cases low : place < 4
      · rw [if_pos low, Nat.div_eq_of_lt low, Nat.mod_eq_of_lt low]
        rfl
      · obtain ⟨above, rfl⟩ := Nat.exists_eq_add_of_le (Nat.le_of_not_lt low)
        rw [if_neg low, ih others, Nat.add_sub_cancel_left, Nat.add_div_left _ (by decide),
          Nat.add_mod_left, List.getElem?_cons_succ]

theorem digitBit_eq {digits : List Char} (hexadecimal : ∀ c ∈ digits, IsHexDigit c)
    (few : digits.length ≤ 2 ^ 32) (place : Nat) :
    Cells.digitBit 0 digits place = (lowNumber digits).testBit place := by
  rw [testBit_lowNumber digits hexadecimal, Bool.eq_iff_iff, Cells.digitBit, List.any_eq_true]
  constructor
  · rintro ⟨⟨c, position⟩, member, found⟩
    obtain ⟨here, bit⟩ := Bool.and_eq_true_iff.1 found
    have present := List.mk_mem_zipIdx_iff_getElem?.1 member
    have inside := (List.getElem?_eq_some_iff.1 present).1
    have same : position = place / 4 := by
      rw [← beq_iff_eq.1 here, Nat.mod_eq_of_lt (by omega)]
    rw [← same, present]
    exact bit
  · intro bit
    cases present : digits[place / 4]? with
    | none => simp [present] at bit
    | some c =>
        rw [present] at bit
        have inside := (List.getElem?_eq_some_iff.1 present).1
        have same : place / 4 % 2 ^ 32 = place / 4 := Nat.mod_eq_of_lt (by omega)
        exact ⟨(c, place / 4), List.mk_mem_zipIdx_iff_getElem?.2 present,
          Bool.and_eq_true_iff.2 ⟨beq_iff_eq.2 same, bit⟩⟩

theorem load_of_spells {text digits : List Char} (spells : Text.Spells text digits)
    (few : text.length ≤ 2 ^ 32) (place : Fin width) :
    load text place = (hexNumber digits).testBit place.val := by
  obtain ⟨_, hexadecimal, rfl⟩ := (Word.spells_iff text digits).1 spells
  refine digitBit_eq (fun c member => hexadecimal c (List.mem_reverse.1 member)) ?_ place.val
  rw [List.length_reverse]
  exact Nat.le_trans (Word.digits_length_le text) few

end Bits

theorem Cells.eq_of_bits {left right : Word} (sameWidth : left.width = right.width)
    (sameBits : ∀ place < left.width, (ofWord left).bit place = (ofWord right).bit place) :
    left = right := by
  refine Word.eq_of_value sameWidth (Nat.eq_of_testBit_eq fun place => ?_)
  by_cases inside : place < left.width
  · have same := sameBits place inside
    rw [bit_ofWord (left.bit_of_lt place inside),
      bit_ofWord (right.bit_of_lt place (sameWidth ▸ inside))] at same
    exact Except.ok.inj same
  · have above (word : Word) (width : word.width = left.width) : word.value.testBit place = false :=
      Nat.testBit_lt_two_pow (Nat.lt_of_lt_of_le word.bounded
        (Nat.pow_le_pow_right Nat.two_pos (by omega)))
    rw [above left rfl, above right sameWidth.symm]

theorem Cells.ofWord_injective {left right : Word} (same : ofWord left = ofWord right) :
    left = right :=
  eq_of_bits (congrArg Cells.width same) fun _ _ => by rw [same]

/-- A word that has the given bits and no more of them. -/
structure Shows {width : Nat} (word : Word) (bits : Bits width) : Prop where
  sameWidth : word.width = width
  bit : ∀ place : Fin width, word.value.testBit place.val = bits place

namespace Shows

variable {width : Nat} {word : Word} {bits : Bits width}

theorem get (shows : Shows word bits) (place : Nat) : word.value.testBit place = bits.get place := by
  rw [Bits.get]
  split
  · rename_i inside
    exact shows.bit ⟨place, inside⟩
  · exact Nat.testBit_lt_two_pow (Nat.lt_of_lt_of_le word.bounded
      (Nat.pow_le_pow_right Nat.two_pos (by rw [shows.sameWidth]; omega)))

theorem number (shows : Shows word bits) (offset length : Nat) :
    bits.number offset length = word.value >>> offset % 2 ^ length :=
  Bits.number_eq_mod length fun index _ => by rw [Nat.testBit_shiftRight, shows.get]

theorem zero (width : Nat) : Shows (.zero width) (Bits.zero : Bits width) :=
  ⟨rfl, fun _ => Nat.zero_testBit _⟩

theorem exists_setBit (shows : Shows word bits) {index : Nat} (inside : index < width)
    (value : Bool) :
    ∃ next, word.setBit index value = .ok next ∧ Shows next (bits.set index value) := by
  obtain ⟨next, success, sameWidth, changed⟩ :=
    word.setBit_of_lt index value (shows.sameWidth ▸ inside)
  refine ⟨next, success, sameWidth.trans shows.sameWidth, fun place => ?_⟩
  rw [changed, shows.bit, Bits.set]

theorem exists_setField (shows : Shows word bits) {offset length : Nat}
    (short : length ≤ Word.fieldLimit) (inside : offset + length ≤ width) (value : Nat) :
    ∃ next, word.setField offset length value = .ok next ∧
      Shows next (bits.setField offset length value) := by
  obtain ⟨next, success, sameWidth, changed⟩ :=
    Word.setField_of_fits value (Word.fieldFits_of_le short (shows.sameWidth ▸ inside))
  refine ⟨next, success, sameWidth.trans shows.sameWidth, fun place => ?_⟩
  rw [changed, Word.testBit_replaceBits, shows.bit, Bits.setField]
  by_cases below : place.val < offset
  · rw [if_pos below, if_neg (by omega)]
  · by_cases here : place.val < offset + length
    · rw [if_neg below, if_pos here, if_pos (by omega)]
    · rw [if_neg below, if_neg here, if_neg (by omega)]

end Shows

inductive Change
  | bit (index : Nat) (value : Bool)
  | field (offset length value : Nat)
  | load (text : List Char)

namespace Change

def Allowed (width : Nat) : Change → Prop
  | bit index _ => index < width
  | field offset length _ => length ≤ Word.fieldLimit ∧ offset + length ≤ width
  | load text => ∃ loaded, Cells.fromHex width text = .ok (some loaded)

def onBits {width : Nat} (bits : Bits width) : Change → Bits width
  | bit index value => bits.set index value
  | field offset length value => bits.setField offset length value
  | load text => .load text

def onCells (cells : Cells) : Change → Except Stop (Option Cells)
  | bit index value => (cells.setBit index value).map some
  | field offset length value => (cells.setBits offset length value).map some
  | load text => Cells.fromHex cells.width text

def onWord (word : Word) : Change → Option Word
  | bit index value => (word.setBit index value).toOption
  | field offset length value => (word.setField offset length value).toOption
  | load text => Word.ofHex? word.width text

def Countable : Change → Prop
  | load text => text.length ≤ 2 ^ 30
  | _ => True

end Change

def Cells.changeAll : List Change → Cells → Except Stop (Option Cells)
  | [], cells => return some cells
  | change :: rest, cells => do
      match ← change.onCells cells with
      | none => return none
      | some next => changeAll rest next

section

variable {width : Nat} (small : width < 2 ^ 32) {word : Word} {bits : Bits width}
include small

theorem Shows.change (shows : Shows word bits) {change : Change} (allowed : change.Allowed width) :
    ∃ next, change.onCells (.ofWord word) = .ok (some (.ofWord next)) ∧
      Shows next (change.onBits bits) ∧ (change.Countable → change.onWord word = some next) := by
  cases change with
  | bit index value =>
      obtain ⟨next, success, shown⟩ := shows.exists_setBit allowed value
      exact ⟨next, by rw [Change.onCells, Cells.setBit_ofWord success]; rfl, shown,
        fun _ => by rw [Change.onWord, success]; rfl⟩
  | field offset length value =>
      obtain ⟨next, success, shown⟩ := shows.exists_setField allowed.1 allowed.2 value
      exact ⟨next, by
        rw [Change.onCells, Cells.setBits_ofWord (shows.sameWidth ▸ small) success]; rfl, shown,
        fun _ => by rw [Change.onWord, success]; rfl⟩
  | load text =>
      obtain ⟨_, success⟩ := allowed
      obtain ⟨next, rfl, sameWidth, loaded⟩ := Cells.exists_of_fromHex success
      -- Nothing of the word that was there is left, but its width.
      have own : (Cells.ofWord word).width = width := shows.sameWidth
      refine ⟨next, by rw [Change.onCells, own, success], ⟨sameWidth, fun place => loaded place.val⟩,
        fun few => ?_⟩
      have read := Cells.fromHex_eq_ok width (Nat.le_trans (Word.digits_length_le text) few)
      obtain ⟨found, spelled, same⟩ :=
        Option.map_eq_some_iff.1 (Except.ok.inj (read.symm.trans success))
      rw [Change.onWord, shows.sameWidth, spelled, Cells.ofWord_injective same]

theorem Shows.changeAll (changes : List Change) : ∀ {word : Word} {bits : Bits width},
    Shows word bits → (∀ change ∈ changes, change.Allowed width) →
    ∃ last, Cells.changeAll changes (.ofWord word) = .ok (some (.ofWord last)) ∧
      Shows last (changes.foldl Change.onBits bits) ∧
      ((∀ change ∈ changes, change.Countable) → changes.foldlM Change.onWord word = some last) := by
  induction changes with
  | nil => exact fun shows _ => ⟨_, rfl, shows, fun _ => rfl⟩
  | cons change rest ih =>
      intro word bits shows allowed
      obtain ⟨first, others⟩ := List.forall_mem_cons.1 allowed
      obtain ⟨next, stepped, shown, numbered⟩ := shows.change small first
      obtain ⟨last, success, lastShown, lastNumbered⟩ := ih shown others
      refine ⟨last, ?_, lastShown, fun countable => ?_⟩
      · rw [Cells.changeAll, stepped]
        exact success
      · obtain ⟨firstFew, othersFew⟩ := List.forall_mem_cons.1 countable
        rw [List.foldlM_cons, numbered firstFew]
        exact lastNumbered othersFew

end

/-- Stored words that hold the given bits: as many bytes as the width takes, with nothing above the
width, and every bit and every field as it is read. -/
structure Cells.Holds {width : Nat} (cells : Cells) (bits : Bits width) : Prop where
  sameWidth : cells.width = width
  size : cells.bytes.length = (width + 7) / 8
  blank : ∀ (place : Nat) (byte : UInt8), width ≤ place → cells.bytes[place / 8]? = some byte →
    byte.toNat.testBit (place % 8) = false
  bit : ∀ place : Fin width, cells.bit place = .ok (bits place)
  field : ∀ offset length, length ≤ Word.fieldLimit → offset + length ≤ width →
    cells.getBits offset length = .ok (bits.number offset length)

theorem Shows.holds {width : Nat} (small : width < 2 ^ 32) {word : Word} {bits : Bits width}
    (shows : Shows word bits) : (Cells.ofWord word).Holds bits := by
  refine ⟨shows.sameWidth, ?_, ?_, ?_, ?_⟩
  · simp [Cells.ofWord, Word.bytes, Word.byteCount, shows.sameWidth]
  · intro place byte outside stored
    obtain ⟨inside, rfl⟩ := List.getElem?_eq_some_iff.1 stored
    simp only [Cells.ofWord, Word.bytes, List.getElem_map, List.getElem_range]
    rw [Cells.testBit_ofNat _ (Nat.mod_lt _ (by decide)), Nat.testBit_shiftRight,
      Nat.div_add_mod, shows.get, Bits.get, dif_neg (Nat.not_lt_of_le outside)]
  · intro place
    rw [← shows.bit]
    exact Cells.bit_ofWord (word.bit_of_lt _ (shows.sameWidth ▸ place.isLt))
  · intro offset length short inside
    rw [shows.number]
    exact Cells.getBits_ofWord (shows.sameWidth ▸ small)
      (Word.field_of_fits (Word.fieldFits_of_le short (shows.sameWidth ▸ inside)))

/-- What writing does to stored words, as far as reading can tell: what was written is read, and
every other bit is read as before. -/
structure Cells.Writes (cells : Cells) : Prop where
  setBit : ∀ index value, index < cells.width →
    ∃ next, cells.setBit index value = .ok next ∧ next.bit index = .ok value ∧
      ∀ place < cells.width, place ≠ index → next.bit place = cells.bit place
  setBits : ∀ offset length value, length ≤ Word.fieldLimit → offset + length ≤ cells.width →
    ∃ next, cells.setBits offset length value = .ok next ∧
      next.getBits offset length = .ok (value % 2 ^ length) ∧
      ∀ place < cells.width, place < offset ∨ offset + length ≤ place →
        next.bit place = cells.bit place

theorem Shows.writes {width : Nat} (small : width < 2 ^ 32) {word : Word} {bits : Bits width}
    (shows : Shows word bits) : (Cells.ofWord word).Writes := by
  have sameWidth : (Cells.ofWord word).width = width := shows.sameWidth
  have holds := shows.holds small
  constructor
  · intro index value inside
    rw [sameWidth] at inside ⊢
    obtain ⟨next, success, shown⟩ := shows.exists_setBit inside value
    have nextHolds := shown.holds small
    refine ⟨_, Cells.setBit_ofWord success, ?_, fun place below other => ?_⟩
    · rw [nextHolds.bit ⟨index, inside⟩, Bits.set, if_pos rfl]
    · rw [nextHolds.bit ⟨place, below⟩, holds.bit ⟨place, below⟩, Bits.set, if_neg other]
  · intro offset length value short inside
    rw [sameWidth] at inside ⊢
    obtain ⟨next, success, shown⟩ := shows.exists_setField short inside value
    have nextHolds := shown.holds small
    refine ⟨_, Cells.setBits_ofWord (shows.sameWidth ▸ small) success, ?_,
      fun place below outside => ?_⟩
    · rw [nextHolds.field offset length short inside, Bits.number_setField bits value inside]
    · rw [nextHolds.bit ⟨place, below⟩, holds.bit ⟨place, below⟩, Bits.setField,
        if_neg (by dsimp only; omega)]

/-- Changes of stored words, one after the other from zero on, change plain bits. The words that are
reached have nothing but these bits, and are equal exactly if they are in width and in every bit.
They are the numbers that the same changes make, as long as the digits of texts can be counted. -/
theorem changes_refine {width : Nat} (small : width < 2 ^ 32) (changes : List Change)
    (allowed : ∀ change ∈ changes, change.Allowed width) :
    (∃ cells, Cells.changeAll changes (.zeroed width) = .ok (some cells) ∧
      cells.Holds (changes.foldl Change.onBits (Bits.zero : Bits width)) ∧ cells.Writes ∧
      (∀ (otherWidth : Nat) (otherChanges : List Change) (other : Cells), otherWidth < 2 ^ 32 →
        (∀ change ∈ otherChanges, change.Allowed otherWidth) →
        Cells.changeAll otherChanges (.zeroed otherWidth) = .ok (some other) →
        (cells = other ↔ cells.width = other.width ∧
          ∀ place < cells.width, cells.bit place = other.bit place)) ∧
      ((∀ change ∈ changes, change.Countable) →
        ∃ word, changes.foldlM Change.onWord (.zero width) = some word ∧ cells = .ofWord word)) ∧
    ∀ text digits, Text.Spells text digits → text.length ≤ 2 ^ 32 → ∀ place : Fin width,
      (Bits.load text : Bits width) place = (hexNumber digits).testBit place.val := by
  refine ⟨?_, fun text digits spells few place => Bits.load_of_spells spells few place⟩
  obtain ⟨last, success, shows, numbered⟩ := (Shows.zero width).changeAll small changes allowed
  rw [Cells.ofWord_zero] at success
  refine ⟨_, success, shows.holds small, shows.writes small, ?_,
    fun countable => ⟨last, numbered countable, rfl⟩⟩
  intro otherWidth otherChanges other otherSmall otherAllowed otherSuccess
  obtain ⟨otherLast, reached, _⟩ := (Shows.zero otherWidth).changeAll otherSmall otherChanges otherAllowed
  rw [Cells.ofWord_zero] at reached
  obtain rfl := Option.some.inj (Except.ok.inj (otherSuccess.symm.trans reached))
  constructor
  · intro same
    rw [← same]
    exact ⟨rfl, fun _ _ => rfl⟩
  · rintro ⟨sameWidth, sameBits⟩
    rw [Cells.eq_of_bits sameWidth sameBits]

def tenBitChanges : List Change :=
  [.field 3 7 0x55, .bit 5 false, .load ['0', 'X', '0', '1', 'f', '\n'], .bit 9 true]

theorem changes_refine_tenBits : ((10 : Nat) < 2 ^ 32 ∧
    ∀ change ∈ tenBitChanges, change.Allowed 10) ∧
    ∃ cells, Cells.changeAll tenBitChanges (.zeroed 10) = .ok (some cells) ∧
      cells.getBits 0 10 = .ok 0x21f ∧ cells.bytes.length = 2 := by
  have allowed : ∀ change ∈ tenBitChanges, change.Allowed 10 := by
    simp only [tenBitChanges, List.forall_mem_cons, Change.Allowed]
    exact ⟨by decide, by decide, ⟨_, rfl⟩, by decide, by simp⟩
  obtain ⟨⟨cells, success, holds, _⟩, _⟩ := changes_refine (by decide) tenBitChanges allowed
  refine ⟨⟨by decide, allowed⟩, cells, success, ?_, holds.size⟩
  rw [holds.field 0 10 (by decide) (by decide)]
  exact congrArg Except.ok (by decide)

end Machine

end StreamWidth
