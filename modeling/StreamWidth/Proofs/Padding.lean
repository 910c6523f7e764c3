import StreamWidth.Proofs.Machine.Bits
import StreamWidth.Proofs.Machine.Runs

/-!
Widths in whole bytes. A value is rounded up to the least multiple that is no smaller, and to nothing
exactly where that multiple is no width any more. The width of a converter always has such a multiple,
which is what the bytes of its words come to.
-/

namespace StreamWidth

namespace Width

/-- The least multiple that is no smaller than a value, whether or not it is a width. -/
structure LeastMultiple (value multiple rounded : Nat) : Prop where
  divides : multiple ∣ rounded
  enough : value ≤ rounded
  least : ∀ other, multiple ∣ other → value ≤ other → rounded ≤ other

variable {value multiple rounded other : Nat}

theorem LeastMultiple.unique (first : LeastMultiple value multiple rounded)
    (second : LeastMultiple value multiple other) : rounded = other :=
  Nat.le_antisymm (first.least other second.divides second.enough)
    (second.least rounded first.divides first.enough)

theorem leastMultiple_div_mul (value : Nat) (positive : 0 < multiple) :
    LeastMultiple value multiple ((value + multiple - 1) / multiple * multiple) := by
  have parts := Nat.div_add_mod' (value + multiple - 1) multiple
  have rest := Nat.mod_lt (value + multiple - 1) positive
  refine ⟨Nat.dvd_mul_left _ _, by omega, ?_⟩
  rintro other ⟨count, rfl⟩ enough
  have next := Nat.mul_add_one multiple count
  have few : (value + multiple - 1) / multiple < count + 1 :=
    Nat.div_lt_of_lt_mul (by omega)
  rw [Nat.mul_comm multiple count]
  exact Nat.mul_le_mul_right multiple (Nat.le_of_lt_succ few)

theorem LeastMultiple.lt_add (least : LeastMultiple value multiple rounded)
    (positive : 0 < multiple) : rounded < value + multiple := by
  refine Nat.lt_of_not_le fun far => ?_
  -- The multiple before it would not be smaller than the value either.
  have before : multiple ∣ rounded - multiple := Nat.dvd_sub least.divides (Nat.dvd_refl multiple)
  have below := least.least (rounded - multiple) before (by omega)
  omega

theorem LeastMultiple.roundUp?_eq (least : LeastMultiple value multiple rounded)
    (positive : 0 < multiple) :
    roundUp? value multiple = if rounded < limit then some rounded else none := by
  rw [roundUp?, if_neg (Nat.ne_of_gt positive)]
  simp only [(leastMultiple_div_mul value positive).unique least]

theorem LeastMultiple.of_roundUp? (found : roundUp? value multiple = some rounded)
    (positive : 0 < multiple) : LeastMultiple value multiple rounded := by
  have least := leastMultiple_div_mul value positive
  rw [least.roundUp?_eq positive] at found
  split at found
  · exact Option.some.inj found ▸ least
  · simp at found

end Width

namespace Word

theorem length_bytes (word : Word) : word.bytes.length = byteCount word.width := by
  simp [bytes]

theorem leastMultiple_byteCount (width : Nat) :
    Width.LeastMultiple width Attributes.byteBits (Attributes.byteBits * byteCount width) := by
  rw [Nat.mul_comm]
  exact Width.leastMultiple_div_mul width (show 0 < 8 by decide)

end Word

namespace Converter

variable (converter : Converter) (side : Side)

theorem roundUp?_width : Width.roundUp? (converter.width side) Attributes.byteBits =
    some (converter.paddedWidth side) := by
  have legal := Attributes.check_eq_ok_iff_legal.1 converter.accepted
  obtain ⟨padded, found⟩ := Option.isSome_iff_exists.1
    ((Width.roundUp?_bytes_isSome_iff (converter.width side)).2 (legal.width_le side))
  rw [paddedWidth, found, Option.getD_some]

structure Padded (padded : Nat) : Prop where
  least : Width.LeastMultiple (converter.width side) 8 padded
  near : padded ≤ converter.width side + 7
  bytes : ∀ word : Word, word.width = converter.width side → padded = 8 * word.bytes.length
  stored : ∀ changes : List Machine.Change,
    (∀ change ∈ changes, change.Allowed (converter.width side)) →
    ∃ cells, Machine.Cells.changeAll changes (.zeroed (converter.width side)) = .ok (some cells) ∧
      padded = 8 * cells.bytes.length

theorem padded_paddedWidth : converter.Padded side (converter.paddedWidth side) := by
  have least := Width.LeastMultiple.of_roundUp? (converter.roundUp?_width side) (by decide)
  have whole := least.unique (Word.leastMultiple_byteCount (converter.width side))
  have near := least.lt_add (by decide)
  refine ⟨least, Nat.le_of_lt_succ near, fun word same => ?_, fun changes allowed => ?_⟩
  · rw [whole, word.length_bytes, same]
    rfl
  · have small := Machine.width_lt converter side
    obtain ⟨last, success, shows, _⟩ :=
      (Machine.Shows.zero (converter.width side)).changeAll small changes allowed
    rw [Machine.Cells.ofWord_zero] at success
    exact ⟨_, success, whole.trans (congrArg _ (shows.holds small).size.symm)⟩

end Converter

/-- Rounding up is exact: it gives the least multiple that is no smaller, and nothing exactly where
that multiple takes more than thirty-two bits, while no sum on the way ever does. Converters are made
only where it succeeds, so none of their padded widths is left as it was for want of a multiple. -/
theorem Width.padding_exact :
    (∀ value multiple, value < 2 ^ 32 → 0 < multiple →
      ∃ rounded, LeastMultiple value multiple rounded ∧
        roundUp? value multiple = (if rounded < 2 ^ 32 then some rounded else none) ∧
        Machine.roundUp value multiple = .ok (roundUp? value multiple)) ∧
    ∀ (converter : Converter) (side : Side),
      converter.Padded side (converter.paddedWidth side) ∧
      Machine.streamWidth converter side true = .ok (converter.paddedWidth side) ∧
      roundUp? (converter.width side) 8 = some (converter.paddedWidth side) := by
  refine ⟨fun value multiple small positive => ?_, fun converter side => ?_⟩
  · have least := leastMultiple_div_mul value positive
    exact ⟨_, least, least.roundUp?_eq positive, Machine.roundUp_eq_ok small multiple⟩
  · exact ⟨converter.padded_paddedWidth side, Machine.streamWidth_padded converter side,
      converter.roundUp?_width side⟩

theorem Width.padding_exact_upperEnd :
    ((4294967293 : Nat) < 2 ^ 32 ∧ LeastMultiple 4294967293 5 4294967295 ∧
      Machine.roundUp 4294967293 5 = .ok (some 4294967295)) ∧
    ((4294967295 : Nat) < 2 ^ 32 ∧
      (∃ rounded, LeastMultiple 4294967295 7 rounded ∧ 2 ^ 32 ≤ rounded) ∧
      Machine.roundUp 4294967295 7 = .ok none) ∧
    Engine.sixIntegersConverter.Padded .input 16 ∧ Engine.sixIntegersConverter.Padded .output 32 ∧
    Machine.streamWidth Engine.sixIntegersConverter .output true = .ok 32 := by
  obtain ⟨exact, padded⟩ := Width.padding_exact
  obtain ⟨five, fiveLeast, fiveFound, fiveChecked⟩ := exact 4294967293 5 (by decide) (by decide)
  obtain ⟨seven, sevenLeast, sevenFound, sevenChecked⟩ := exact 4294967295 7 (by decide) (by decide)
  have last : roundUp? 4294967293 5 = some 4294967295 := by decide
  have beyond : roundUp? 4294967295 7 = none := by decide
  obtain ⟨input, _, _⟩ := padded Engine.sixIntegersConverter .input
  obtain ⟨output, queried, _⟩ := padded Engine.sixIntegersConverter .output
  rw [last] at fiveFound fiveChecked
  rw [beyond] at sevenFound sevenChecked
  refine ⟨⟨by decide, ?_, fiveChecked⟩, ⟨by decide, ⟨seven, sevenLeast, ?_⟩, sevenChecked⟩, input,
    output, queried⟩
  · split at fiveFound
    · exact Option.some.inj fiveFound ▸ fiveLeast
    · simp at fiveFound
  · split at sevenFound
    · simp at sevenFound
    · omega

end StreamWidth
