import StreamWidth.Proofs.Acceptance

/-!
Tags of element types. A tag is read exactly if the grammar spells it, and everything else is refused
as a configuration. A type has many spellings, and the tag that it is written with is one of them.
-/

namespace StreamWidth

namespace Text

/-- A text of decimal digits and the number that it stands for. -/
structure DigitRun (text : String) (value : Nat) : Prop where
  nonempty : text ≠ ""
  decimal : ∀ c ∈ text.toList, c.isDigit = true
  value : value = Nat.ofDigitChars 10 text.toList 0

def Numeral (text : String) (value : Nat) : Prop :=
  DigitRun text value ∨ ∃ digits, text = "+" ++ digits ∧ DigitRun digits value

theorem digit?_of_isDigit {c : Char} (digit : c.isDigit = true) :
    digit? 10 c = some (c.toNat - '0'.toNat) := by
  have bounds : '0' ≤ c ∧ c ≤ '9' := Char.isDigit_iff_toNat.1 digit
  have small : c.toNat ≤ '9'.toNat := bounds.2
  have zero : '0'.toNat = 48 := rfl
  have nine : '9'.toNat = 57 := rfl
  rw [digit?, if_pos bounds, if_pos (by omega)]

theorem digit?_eq_none {c : Char} (other : ¬c.isDigit = true) : digit? 10 c = none := by
  have bounds : ¬('0' ≤ c ∧ c ≤ '9') := fun inside => other (Char.isDigit_iff_toNat.2 inside)
  rw [digit?, if_neg bounds]
  refine if_neg ?_
  split
  · omega
  · split <;> omega

theorem foldlM_extendNumber?_ten_iff (text : List Char) : ∀ start value,
    text.foldlM (extendNumber? 10) start = some value ↔
      (∀ c ∈ text, c.isDigit = true) ∧ value = Nat.ofDigitChars 10 text start := by
  induction text with
  | nil =>
      intro start value
      rw [List.foldlM_nil, Nat.ofDigitChars_nil]
      exact ⟨fun same => ⟨by simp, (Option.some.inj same).symm⟩, fun ⟨_, same⟩ => same ▸ rfl⟩
  | cons c rest ih =>
      intro start value
      rw [List.foldlM_cons, extendNumber?, List.forall_mem_cons, Nat.ofDigitChars_cons]
      by_cases digit : c.isDigit = true
      · rw [digit?_of_isDigit digit, Option.map_some]
        simp only [bind, Option.bind_some, ih, digit, true_and]
      · rw [digit?_eq_none digit]
        simp [digit]

theorem number?_ten_eq_some_iff (text : String) (value : Nat) :
    number? 10 text.toList = some value ↔ DigitRun text value := by
  rw [number?]
  by_cases empty : text = ""
  · subst empty
    exact iff_of_false (by simp) fun run => run.nonempty rfl
  · have nonempty : ¬text.toList.isEmpty = true := by simpa using empty
    rw [if_neg nonempty, foldlM_extendNumber?_ten_iff]
    exact ⟨fun ⟨decimal, value⟩ => ⟨empty, decimal, value⟩, fun run => ⟨run.decimal, run.value⟩⟩

theorem digitRun_toString (n : Nat) : DigitRun (toString n) n := by
  have digits : (toString n).toList = Nat.toDigits 10 n := by simp
  refine ⟨?_, ?_, ?_⟩
  · simp [← String.toList_inj]
  · intro c member
    rw [digits] at member
    exact Nat.isDigit_of_mem_toDigits (by decide) (by decide) member
  · rw [digits, Nat.ofDigitChars_ten_toDigits]

end Text

namespace ElementType

open Text (DigitRun Numeral)

theorem unsignedDigits_of_digitRun {text : String} {value : Nat} (run : DigitRun text value) :
    unsignedDigits text.toList = text.toList := by
  rw [unsignedDigits.eq_def]
  split
  · rename_i digits signed
    exact absurd (run.decimal '+' (by simp [signed])) (by decide)
  · rfl

theorem number?_unsignedDigits_iff (text : String) (value : Nat) :
    Text.number? 10 (unsignedDigits text.toList) = some value ↔ Numeral text value := by
  constructor
  · intro found
    rw [unsignedDigits.eq_def] at found
    split at found
    · rename_i digits signed
      rw [← String.toList_ofList (l := digits), Text.number?_ten_eq_some_iff] at found
      exact Or.inr ⟨_, by simp [← String.toList_inj, signed], found⟩
    · exact Or.inl ((Text.number?_ten_eq_some_iff text value).1 found)
  · rintro (run | ⟨digits, rfl, run⟩)
    · rw [unsignedDigits_of_digitRun run]
      exact (Text.number?_ten_eq_some_iff text value).2 run
    · rw [String.toList_append]
      exact (Text.number?_ten_eq_some_iff digits value).2 run

theorem bitCount?_eq_some_iff (text : String) (bits : Nat) :
    bitCount? text.toList = some bits ↔ Numeral text bits ∧ bits < bitCountLimit := by
  rw [bitCount?, Option.filter_eq_some_iff, number?_unsignedDigits_iff, decide_eq_true_eq]

/-- The types that a tag stands for: one with a name of its own, or an integer type by its name and
its number of bits. -/
inductive Names : String → ElementType → Prop
  | binary : Names "BINARY" .binary
  | bipolar : Names "BIPOLAR" .bipolar
  | ternary : Names "TERNARY" .ternary
  | float32 : Names "FLOAT32" .float32
  | unsigned {text : String} {bits : Nat} (numeral : Numeral text bits) :
      Names ("UINT" ++ text) (.unsigned bits)
  | signed {text : String} {bits : Nat} (numeral : Numeral text bits) :
      Names ("INT" ++ text) (.signed bits)

def Bounded : ElementType → Prop
  | unsigned bits => 1 ≤ bits ∧ bits ≤ 32
  | signed bits => 2 ≤ bits ∧ bits ≤ 32
  | _ => True

theorem isSupported_iff_bounded (type : ElementType) : type.isSupported = true ↔ type.Bounded := by
  rw [isSupported, Bool.and_eq_true, decide_eq_true_eq, decide_eq_true_eq]
  cases type with
  | unsigned bits | signed bits => exact Iff.rfl
  | _ => exact iff_of_true (by decide) trivial

theorem names_of_integerType? {tag : String} {type : ElementType}
    (found : integerType? tag.toList = some type) :
    Names tag type ∧ type.bitwidth < bitCountLimit := by
  have counted {digits : List Char} {bits : Nat} (count : bitCount? digits = some bits) :
      Numeral (String.ofList digits) bits ∧ bits < bitCountLimit := by
    rw [← String.toList_ofList (l := digits)] at count
    exact (bitCount?_eq_some_iff _ bits).1 count
  rw [integerType?.eq_def] at found
  split at found
  · rename_i digits spelled
    obtain ⟨bits, count, rfl⟩ := Option.map_eq_some_iff.1 found
    have tag : tag = "UINT" ++ String.ofList digits := by
      simp [← String.toList_inj, spelled]
    obtain ⟨numeral, small⟩ := counted count
    exact ⟨tag ▸ .unsigned numeral, small⟩
  · rename_i digits spelled
    obtain ⟨bits, count, rfl⟩ := Option.map_eq_some_iff.1 found
    have tag : tag = "INT" ++ String.ofList digits := by
      simp [← String.toList_inj, spelled]
    obtain ⟨numeral, small⟩ := counted count
    exact ⟨tag ▸ .signed numeral, small⟩
  · simp at found

theorem named?_eq_some_iff (tag : String) (type : ElementType) :
    named? tag = some type ↔ Names tag type ∧ type.bitwidth < bitCountLimit := by
  constructor
  · intro found
    rw [named?] at found
    repeat' split at found
    · rename_i same
      exact same ▸ Option.some.inj found ▸ ⟨.binary, by decide⟩
    · rename_i same
      exact same ▸ Option.some.inj found ▸ ⟨.bipolar, by decide⟩
    · rename_i same
      exact same ▸ Option.some.inj found ▸ ⟨.ternary, by decide⟩
    · rename_i same
      exact same ▸ Option.some.inj found ▸ ⟨.float32, by decide⟩
    · exact names_of_integerType? found
  · rintro ⟨names, small⟩
    cases names with
    | unsigned numeral | signed numeral =>
        have count := (bitCount?_eq_some_iff _ _).2 ⟨numeral, small⟩
        simp [named?, ← String.toList_inj, integerType?, count]
    | _ => rfl

theorem names_tag (type : ElementType) : Names type.tag type := by
  cases type with
  | binary => exact .binary
  | bipolar => exact .bipolar
  | ternary => exact .ternary
  | unsigned bits => exact .unsigned (Or.inl (Text.digitRun_toString bits))
  | signed bits => exact .signed (Or.inl (Text.digitRun_toString bits))
  | float32 => exact .float32

theorem ofTag_eq_ok_iff (tag : String) (type : ElementType) :
    ofTag tag = .ok type ↔ named? tag = some type ∧ type.isSupported = true := by
  rw [ofTag]
  cases named? tag with
  | none => simp
  | some found =>
      by_cases supported : found.isSupported = true
      · simp only [checkSupported, if_pos supported, Except.map, Except.ok.injEq, Option.some.injEq]
        exact ⟨fun same => ⟨same, same ▸ supported⟩, fun known => known.1⟩
      · simp only [checkSupported, if_neg supported, Except.map, reduceCtorEq, Option.some.injEq,
          false_iff, not_and]
        exact fun same => same ▸ supported

theorem bitwidth_lt_of_supported {type : ElementType} (supported : type.isSupported = true) :
    type.bitwidth < bitCountLimit := by
  have bounded : type.bitwidth ≤ 32 := (bits_of_supported supported).2
  exact Nat.lt_of_le_of_lt bounded (by decide)

theorem ofTag_eq_ok_iff_names (tag : String) (type : ElementType) :
    ofTag tag = .ok type ↔ Names tag type ∧ type.Bounded := by
  rw [ofTag_eq_ok_iff, named?_eq_some_iff, ← isSupported_iff_bounded]
  exact ⟨fun ⟨⟨names, _⟩, supported⟩ => ⟨names, supported⟩,
    fun ⟨names, supported⟩ => ⟨⟨names, bitwidth_lt_of_supported supported⟩, supported⟩⟩

theorem ofTag_tag {type : ElementType} (supported : type.isSupported = true) :
    ofTag type.tag = .ok type :=
  (ofTag_eq_ok_iff_names _ _).2 ⟨names_tag type, (isSupported_iff_bounded type).1 supported⟩

theorem checkSupported_eq_ok {type : ElementType} (supported : type.isSupported = true) :
    type.checkSupported = .ok () :=
  if_pos supported

theorem ofTag_refuses (tag : String) : RefusesConfigurations (ofTag tag) := by
  rw [ofTag]
  split
  · exact .configuration _
  · rename_i type _
    rw [checkSupported]
    split
    · exact .ok _
    · exact .configuration _

/-- Exactly the tags that the grammar spells are read, each as the one type that it names, and all
other texts are refused as configurations. A type that was read is read again from the tag that it is
written with, so tags stand for the same type if and only if they are written alike. -/
theorem ofTag_accepts_named (tag : String) :
    (∀ type, ofTag tag = .ok type ↔ Names tag type ∧ type.Bounded) ∧
    ((∃ cause, ofTag tag = .error (.configuration cause)) ↔
      ¬∃ type, Names tag type ∧ type.Bounded) ∧
    (∀ type, ofTag tag = .ok type →
      type.checkSupported = .ok () ∧ ofTag type.tag = .ok type) ∧
    ∀ other type otherType, ofTag tag = .ok type → ofTag other = .ok otherType →
      (type = otherType ↔ type.tag = otherType.tag) := by
  have again {text : String} {type : ElementType} (read : ofTag text = .ok type) :
      ofTag type.tag = .ok type :=
    ofTag_tag ((ofTag_eq_ok_iff text type).1 read).2
  refine ⟨ofTag_eq_ok_iff_names tag, ?_, ?_, ?_⟩
  · simp only [← ofTag_eq_ok_iff_names]
    rcases ofTag_refuses tag with ⟨type, read⟩ | ⟨cause, refused⟩
    · rw [read]
      exact iff_of_false (by simp) (not_not_intro ⟨type, rfl⟩)
    · rw [refused]
      exact iff_of_true ⟨cause, rfl⟩ (by simp)
  · intro type read
    exact ⟨checkSupported_eq_ok ((ofTag_eq_ok_iff tag type).1 read).2, again read⟩
  · intro other type otherType read otherRead
    refine ⟨congrArg ElementType.tag, fun same => ?_⟩
    have reread := again read
    rw [same, again otherRead] at reread
    exact (Except.ok.inj reread).symm

theorem ofTag_accepts_named_spelledOut :
    ofTag "UINT+0032" = .ok (.unsigned 32) ∧ Names "UINT+0032" (.unsigned 32) ∧
      ofTag (ElementType.unsigned 32).tag = .ok (.unsigned 32) ∧
      ofTag "INT0032" = .ok (.signed 32) ∧
      (ElementType.unsigned 32).tag ≠ (ElementType.signed 32).tag := by
  have read : ofTag "UINT+0032" = .ok (.unsigned 32) := rfl
  have otherRead : ofTag "INT0032" = .ok (.signed 32) := rfl
  obtain ⟨named, _, again, alike⟩ := ofTag_accepts_named "UINT+0032"
  refine ⟨read, ((named _).1 read).1, (again _ read).2, otherRead, fun same => ?_⟩
  exact absurd ((alike "INT0032" _ _ read otherRead).2 same) (by decide)

end ElementType

end StreamWidth
