import StreamWidth.Proofs.Words
import StreamWidth.Word.Hex

/-!
Words in hexadecimal, written and read. A word is written with as many digits as its width takes,
and a text is read as a word exactly if it spells a number that has room in the width.
-/

namespace StreamWidth

namespace Text

def hexAlphabet : List Char :=
  ['0', '1', '2', '3', '4', '5', '6', '7', '8', '9', 'a', 'b', 'c', 'd', 'e', 'f']

def IsHexDigit (c : Char) : Prop :=
  c.toLower ∈ hexAlphabet

instance (c : Char) : Decidable (IsHexDigit c) :=
  inferInstanceAs (Decidable (_ ∈ _))

def hexValue (c : Char) : Nat :=
  hexAlphabet.idxOf c.toLower

def lowNumber : List Char → Nat
  | [] => 0
  | c :: rest => hexValue c + 16 * lowNumber rest

def hexNumber (digits : List Char) : Nat :=
  lowNumber digits.reverse

/-- A text with blanks around at most one mark and some digits after it. -/
structure Spells (text digits : List Char) : Prop where
  nonempty : digits ≠ []
  hexadecimal : ∀ c ∈ digits, IsHexDigit c
  surrounded : ∃ before mark after, (∀ c ∈ before, isBlank c = true) ∧
    (mark = [] ∨ mark = ['0', 'x'] ∨ mark = ['0', 'X']) ∧ (∀ c ∈ after, isBlank c = true) ∧
    text = before ++ ((mark ++ digits) ++ after)

theorem toLower_of_not_ascii {c : Char} (foreign : ¬c.toNat < 128) : c.toLower = c := by
  refine dif_neg ?_
  rintro ⟨_, below⟩
  exact foreign (Nat.lt_of_le_of_lt (Char.le_def.1 below) (by decide))

theorem ascii_of_isHexDigit {c : Char} (hexadecimal : IsHexDigit c) : c.toNat < 128 := by
  have letters : ∀ letter ∈ hexAlphabet, letter.toNat < 128 := by simp [hexAlphabet]
  refine Decidable.byContradiction fun foreign => ?_
  rw [IsHexDigit, toLower_of_not_ascii foreign] at hexadecimal
  exact foreign (letters c hexadecimal)

theorem isBlank_of_isHexDigit {c : Char} (hexadecimal : IsHexDigit c) : isBlank c = false := by
  refine Bool.eq_false_iff.2 fun blank => ?_
  have ascii := ascii_of_isHexDigit hexadecimal
  -- Only six blanks have codes as small as those of digits.
  have few : c.toNat ∈ [9, 10, 11, 12, 13, 32] := by
    simp only [isBlank, Bool.or_eq_true, Bool.and_eq_true, decide_eq_true_eq, beq_iff_eq] at blank
    simp only [List.mem_cons, List.not_mem_nil, or_false]
    omega
  have other : ∀ n ∈ [9, 10, 11, 12, 13, 32], ¬IsHexDigit (Char.ofNat n) := by decide
  exact other c.toNat few (by rwa [Char.ofNat_toNat])

theorem digit?_eq (c : Char) : digit? 16 c = if IsHexDigit c then some (hexValue c) else none := by
  by_cases ascii : c.toNat < 128
  · have each : ∀ n < 128, digit? 16 (Char.ofNat n) =
        if IsHexDigit (Char.ofNat n) then some (hexValue (Char.ofNat n)) else none := by
      decide +kernel
    rw [← c.ofNat_toNat]
    exact each c.toNat ascii
  · have beyond (letter : Char) (small : letter.toNat < 128) : ¬c ≤ letter :=
      fun below => ascii (Nat.lt_of_le_of_lt (Char.le_def.1 below) small)
    rw [if_neg fun hexadecimal => ascii (ascii_of_isHexDigit hexadecimal)]
    simp [digit?, beyond]

theorem lowNumber_append (low high : List Char) :
    lowNumber (low ++ high) = lowNumber low + 16 ^ low.length * lowNumber high := by
  induction low with
  | nil => simp [lowNumber]
  | cons c rest ih =>
      rw [List.cons_append, lowNumber, lowNumber, ih, List.length_cons, Nat.pow_succ, Nat.mul_add,
        Nat.add_assoc, Nat.mul_comm (16 ^ rest.length) 16, Nat.mul_assoc]

theorem hexNumber_cons (c : Char) (rest : List Char) :
    hexNumber (c :: rest) = 16 ^ rest.length * hexValue c + hexNumber rest := by
  rw [hexNumber, List.reverse_cons, lowNumber_append, List.length_reverse, Nat.add_comm]
  simp [lowNumber, hexNumber]

theorem foldlM_extendNumber?_iff (digits : List Char) : ∀ start value,
    digits.foldlM (extendNumber? 16) start = some value ↔
      (∀ c ∈ digits, IsHexDigit c) ∧ value = 16 ^ digits.length * start + hexNumber digits := by
  induction digits with
  | nil =>
      intro start value
      simp [hexNumber, lowNumber, eq_comm]
  | cons c rest ih =>
      intro start value
      rw [List.foldlM_cons, extendNumber?, digit?_eq, List.forall_mem_cons]
      by_cases hexadecimal : IsHexDigit c
      · have total : 16 ^ rest.length * (16 * start + hexValue c) + hexNumber rest =
            16 ^ (c :: rest).length * start + hexNumber (c :: rest) := by
          rw [hexNumber_cons, List.length_cons, Nat.pow_succ, Nat.mul_add, Nat.mul_assoc,
            Nat.add_assoc]
        rw [if_pos hexadecimal, Option.map_some]
        simp only [bind, Option.bind_some, ih, total, hexadecimal, true_and]
      · rw [if_neg hexadecimal]
        simp [hexadecimal]

theorem number?_eq_some_iff (digits : List Char) (value : Nat) :
    number? 16 digits = some value ↔
      digits ≠ [] ∧ (∀ c ∈ digits, IsHexDigit c) ∧ value = hexNumber digits := by
  rw [number?]
  by_cases empty : digits = []
  · simp [empty]
  · have nonempty : ¬digits.isEmpty = true := by simpa using empty
    rw [if_neg nonempty, foldlM_extendNumber?_iff]
    simp [empty]

theorem dropWhile_of_not_blank {text : List Char} (solid : ∀ c ∈ text, isBlank c = false) :
    text.dropWhile isBlank = text := by
  cases text with
  | nil => rfl
  | cons c rest => exact List.dropWhile_cons_of_neg (by simp [solid c List.mem_cons_self])

theorem trimChars_append {before core after : List Char} (nonempty : core ≠ [])
    (before_blank : ∀ c ∈ before, isBlank c = true) (solid : ∀ c ∈ core, isBlank c = false)
    (after_blank : ∀ c ∈ after, isBlank c = true) :
    trimChars (before ++ (core ++ after)) = core := by
  have front : (core ++ after).dropWhile isBlank = core ++ after := by
    cases core with
    | nil => exact absurd rfl nonempty
    | cons c rest => exact List.dropWhile_cons_of_neg (by simp [solid c List.mem_cons_self])
  have back : core.reverse.dropWhile isBlank = core.reverse :=
    dropWhile_of_not_blank fun c member => solid c (List.mem_reverse.1 member)
  rw [trimChars, List.dropWhile_append_of_pos before_blank, front, List.reverse_append,
    List.dropWhile_append_of_pos fun c member => after_blank c (List.mem_reverse.1 member), back,
    List.reverse_reverse]

theorem exists_blanks (text : List Char) : ∃ before after, (∀ c ∈ before, isBlank c = true) ∧
    (∀ c ∈ after, isBlank c = true) ∧ text = before ++ (trimChars text ++ after) := by
  refine ⟨text.takeWhile isBlank, ((text.dropWhile isBlank).reverse.takeWhile isBlank).reverse,
    fun c member => List.all_eq_true.1 List.all_takeWhile c member,
    fun c member => List.all_eq_true.1 List.all_takeWhile c (List.mem_reverse.1 member), ?_⟩
  rw [trimChars, ← List.reverse_append, List.takeWhile_append_dropWhile, List.reverse_reverse,
    List.takeWhile_append_dropWhile]

end Text

namespace Word

open Text (Spells IsHexDigit hexNumber hexAlphabet)

theorem withoutHexMark_of_hexadecimal {digits : List Char}
    (hexadecimal : ∀ c ∈ digits, IsHexDigit c) : withoutHexMark digits = digits := by
  have marks : ¬IsHexDigit 'x' ∧ ¬IsHexDigit 'X' := by decide
  rw [withoutHexMark.eq_def]
  split
  · exact absurd (hexadecimal 'x' (by simp)) marks.1
  · exact absurd (hexadecimal 'X' (by simp)) marks.2
  · rfl

theorem exists_hexMark (text : List Char) : ∃ mark : List Char,
    (mark = [] ∨ mark = ['0', 'x'] ∨ mark = ['0', 'X']) ∧ text = mark ++ withoutHexMark text := by
  rw [withoutHexMark.eq_def]
  split
  · exact ⟨['0', 'x'], by simp, rfl⟩
  · exact ⟨['0', 'X'], by simp, rfl⟩
  · exact ⟨[], by simp, rfl⟩

theorem digits_length_le (text : List Char) :
    (withoutHexMark (Text.trimChars text)).length ≤ text.length := by
  obtain ⟨before, after, _, _, whole⟩ := Text.exists_blanks text
  obtain ⟨mark, _, marked⟩ := exists_hexMark (Text.trimChars text)
  have outer := congrArg List.length whole
  have inner := congrArg List.length marked
  rw [List.length_append, List.length_append] at outer
  rw [List.length_append] at inner
  omega

theorem spells_iff (text digits : List Char) :
    Spells text digits ↔ digits ≠ [] ∧ (∀ c ∈ digits, IsHexDigit c) ∧
      withoutHexMark (Text.trimChars text) = digits := by
  constructor
  · rintro ⟨nonempty, hexadecimal, before, mark, after, beforeBlank, known, afterBlank, rfl⟩
    have marks : ∀ c ∈ mark, Text.isBlank c = false := by
      rcases known with rfl | rfl | rfl <;> simp [Text.isBlank]
    have solid : ∀ c ∈ mark ++ digits, Text.isBlank c = false := by
      intro c member
      rcases List.mem_append.1 member with inMark | inDigits
      · exact marks c inMark
      · exact Text.isBlank_of_isHexDigit (hexadecimal c inDigits)
    rw [Text.trimChars_append (by simp [nonempty]) beforeBlank solid afterBlank]
    refine ⟨nonempty, hexadecimal, ?_⟩
    rcases known with rfl | rfl | rfl
    · exact withoutHexMark_of_hexadecimal hexadecimal
    · rfl
    · rfl
  · rintro ⟨nonempty, hexadecimal, rfl⟩
    obtain ⟨before, after, beforeBlank, afterBlank, whole⟩ := Text.exists_blanks text
    obtain ⟨mark, known, marked⟩ := exists_hexMark (Text.trimChars text)
    refine ⟨nonempty, hexadecimal, before, mark, after, beforeBlank, known, afterBlank, ?_⟩
    rw [← marked]
    exact whole

def fit? (width value : Nat) : Option Word :=
  if room : value < 2 ^ width then some ⟨width, value, room⟩ else none

theorem fit?_eq_some_iff {width value : Nat} {word : Word} :
    fit? width value = some word ↔ word.width = width ∧ word.value = value := by
  rw [fit?]
  split
  · rw [Option.some.injEq]
    constructor
    · rintro rfl
      exact ⟨rfl, rfl⟩
    · rintro ⟨sameWidth, sameValue⟩
      exact eq_of_value sameWidth.symm sameValue.symm
  · rename_i full
    constructor
    · intro found
      simp at found
    · rintro ⟨rfl, rfl⟩
      exact absurd word.bounded full

theorem fit?_self (word : Word) : fit? word.width word.value = some word :=
  fit?_eq_some_iff.2 ⟨rfl, rfl⟩

theorem fit?_eq_none_iff {width value : Nat} : fit? width value = none ↔ 2 ^ width ≤ value := by
  rw [fit?]
  split <;> simp <;> omega

theorem ofHex?_eq_bind (width : Nat) (text : List Char) : ofHex? width text =
    (Text.number? 16 (withoutHexMark (Text.trimChars text))).bind (fit? width) := by
  rw [ofHex?]
  cases Text.number? 16 (withoutHexMark (Text.trimChars text)) with
  | none => rfl
  | some value =>
      have room : value >>> width = 0 ↔ value < 2 ^ width := by
        rw [Nat.shiftRight_eq_div_pow, Nat.div_eq_zero_iff_lt (Nat.two_pow_pos width)]
      simp only [Option.bind_some, fit?, room]

/-- A text is read as a word exactly if it spells a number that the word has room for. -/
theorem ofHex?_eq_some_iff (width : Nat) (text : List Char) (word : Word) :
    ofHex? width text = some word ↔
      word.width = width ∧ ∃ digits, Spells text digits ∧ word.value = hexNumber digits := by
  rw [ofHex?_eq_bind, Option.bind_eq_some_iff]
  simp only [Text.number?_eq_some_iff, fit?_eq_some_iff, spells_iff]
  constructor
  · rintro ⟨value, ⟨nonempty, hexadecimal, rfl⟩, sameWidth, sameValue⟩
    exact ⟨sameWidth, _, ⟨nonempty, hexadecimal, rfl⟩, sameValue⟩
  · rintro ⟨sameWidth, digits, ⟨nonempty, hexadecimal, rfl⟩, sameValue⟩
    exact ⟨_, ⟨nonempty, hexadecimal, rfl⟩, sameWidth, sameValue⟩

theorem exists_ofHex?_iff (width : Nat) (text : List Char) :
    (∃ word, ofHex? width text = some word) ↔
      ∃ digits, Spells text digits ∧ hexNumber digits < 2 ^ width := by
  simp only [ofHex?_eq_some_iff]
  constructor
  · rintro ⟨word, rfl, digits, spells, value⟩
    exact ⟨digits, spells, value ▸ word.bounded⟩
  · rintro ⟨digits, spells, room⟩
    exact ⟨⟨width, hexNumber digits, room⟩, rfl, digits, spells, rfl⟩

theorem hexValue_digitChar : ∀ n < 16, Nat.digitChar n ∈ hexAlphabet ∧
    IsHexDigit (Nat.digitChar n) ∧ Text.hexValue (Nat.digitChar n) = n := by
  decide

theorem two_pow_four_mul (count : Nat) : (2 : Nat) ^ (4 * count) = 16 ^ count :=
  Nat.pow_mul 2 4 count

theorem lowNumber_digits (value count : Nat) :
    Text.lowNumber ((List.range count).map fun index =>
      Nat.digitChar ((value >>> (4 * index)) % 16)) = value % 16 ^ count := by
  induction count with
  | zero => simp [Text.lowNumber, Nat.mod_one]
  | succ count ih =>
      have digit := (hexValue_digitChar ((value >>> (4 * count)) % 16)
        (Nat.mod_lt _ (by decide))).2.2
      rw [List.range_succ, List.map_append, Text.lowNumber_append, ih, List.map_cons, List.map_nil,
        Text.lowNumber, digit, Text.lowNumber, List.length_map, List.length_range, Nat.pow_succ,
        Nat.mod_mul, Nat.mul_zero, Nat.add_zero, Nat.shiftRight_eq_div_pow, two_pow_four_mul]

theorem hexDigits_length (word : Word) : word.hexDigits.length = (word.width + 3) / 4 := by
  simp [hexDigits, hexDigitCount]

theorem hexNumber_hexDigits (word : Word) : hexNumber word.hexDigits = word.value := by
  have room : word.width ≤ 4 * hexDigitCount word.width := by
    rw [hexDigitCount]
    omega
  have bounded : word.value < 16 ^ hexDigitCount word.width := by
    rw [← two_pow_four_mul]
    exact Nat.lt_of_lt_of_le word.bounded (Nat.pow_le_pow_right (by decide) room)
  rw [hexNumber, hexDigits, ← List.map_reverse, List.reverse_reverse, lowNumber_digits,
    Nat.mod_eq_of_lt bounded]

theorem mem_hexDigits {word : Word} {c : Char} (member : c ∈ word.hexDigits) :
    c ∈ hexAlphabet ∧ IsHexDigit c := by
  obtain ⟨index, _, rfl⟩ := List.mem_map.1 member
  obtain ⟨known, hexadecimal, _⟩ := hexValue_digitChar ((word.value >>> (4 * index)) % 16)
    (Nat.mod_lt _ (by decide))
  exact ⟨known, hexadecimal⟩

/-- As many digits as the width takes, in lower case, and of a number that has the bits of the
word. -/
structure Digits (word : Word) (digits : List Char) : Prop where
  length : digits.length = (word.width + 3) / 4
  lowerCase : ∀ c ∈ digits, c ∈ hexAlphabet
  bounded : hexNumber digits < 2 ^ word.width
  bits : ∀ index < word.width, word.bit index = .ok ((hexNumber digits).testBit index)

theorem digits_hexDigits (word : Word) : word.Digits word.hexDigits where
  length := word.hexDigits_length
  lowerCase c member := (mem_hexDigits member).1
  bounded := word.hexNumber_hexDigits ▸ word.bounded
  bits index inside := by rw [word.bit_of_lt index inside, hexNumber_hexDigits]

theorem spells_hexText {word : Word} (positive : 0 < word.width) :
    Spells word.hexText.toList word.hexDigits := by
  refine ⟨?_, fun c member => (mem_hexDigits member).2, [], ['0', 'x'], [], by simp, by simp,
    by simp, by simp [hexText]⟩
  have count := hexDigits_length word
  exact List.ne_nil_of_length_pos (by omega)

theorem ofHex?_hexText {word : Word} (positive : 0 < word.width) :
    ofHex? word.width word.hexText.toList = some word :=
  (ofHex?_eq_some_iff _ _ word).2
    ⟨rfl, _, spells_hexText positive, word.hexNumber_hexDigits.symm⟩

end Word

end StreamWidth
