import StreamWidth.Proofs.Acceptance

/-!
What a converter counts. Elements, words and bits are counted by products that are kept at a limit;
for a converter the limit is never reached, so the counts of its two streams balance exactly.
-/

namespace StreamWidth

namespace Shape

/-- Multiplying the dimensions one after the other never passes the limit. -/
def Uncapped (dims : List Nat) : Prop :=
  ∀ front, front <+: dims → product front ≤ countLimit

theorem uncapped_concat_iff (outer : List Nat) (last : Nat) :
    Uncapped (outer ++ [last]) ↔ Uncapped outer ∧ product outer * last ≤ countLimit := by
  have whole : product (outer ++ [last]) = product outer * last := by
    rw [product_append]
    simp [product]
  constructor
  · intro uncapped
    refine ⟨fun front before => uncapped front (before.trans (List.prefix_append outer [last])), ?_⟩
    rw [← whole]
    exact uncapped _ (List.prefix_refl _)
  · rintro ⟨uncapped, small⟩ front before
    rcases List.prefix_concat_iff.1 before with rfl | within
    · rwa [whole]
    · exact uncapped front within

theorem uncapped_of_exactProduct {dims : List Nat} {total : Nat}
    (found : exactProduct? dims = some total) : Uncapped dims := by
  rintro front ⟨rest, rfl⟩
  rw [exactProduct?, List.foldlM_append] at found
  obtain ⟨counted, reached, _⟩ := Option.bind_eq_some_iff.1 found
  exact product_le_of_exactProduct reached

theorem Uncapped.cappedProduct_eq {dims : List Nat} (uncapped : Uncapped dims) :
    cappedProduct dims = product dims := by
  rw [cappedProduct_eq_min, Nat.min_eq_left (uncapped dims (List.prefix_refl dims))]

namespace Folds

variable {shape : Shape} {width bits channels : Nat}

theorem uncapped_splitLast (folds : Folds shape width bits channels)
    (uncapped : Uncapped shape.dims) :
    Uncapped (shape.splitLast channels (width / bits)).dims := by
  have whole := folds.product_splitLast
  rw [folds.dims_eq, uncapped_concat_iff] at uncapped
  obtain ⟨outer, small⟩ := uncapped
  have groups : product shape.outerDims * (channels / (width / bits)) ≤ countLimit :=
    Nat.le_trans (Nat.mul_le_mul_left _ (Nat.div_le_self _ _)) small
  have all : product (shape.outerDims ++ [channels / (width / bits)]) * (width / bits) ≤
      countLimit := by
    rw [product_append]
    simpa [product, Nat.mul_assoc, Nat.div_mul_cancel folds.whole] using small
  rw [splitLast, ← List.singleton_append, ← List.append_assoc]
  exact (uncapped_concat_iff _ _).2 ⟨(uncapped_concat_iff _ _).2 ⟨outer, groups⟩, all⟩

end Folds

end Shape

namespace Converter

open Shape (Uncapped product)

variable (converter : Converter)

theorem uncapped : Uncapped converter.shape.dims := by
  obtain ⟨_, folds, _⟩ := converter.folds .input
  have counted : converter.shape.exactCount? ≠ none :=
    converter.attributes.checkCount_eq_ok_iff.1 converter.checks.2.1
  rw [Shape.exactCount?, if_neg folds.dims_ne_nil] at counted
  obtain ⟨total, found⟩ := Option.ne_none_iff_exists'.1 counted
  exact Shape.uncapped_of_exactProduct found

/-- What one side of a converter counts: every product is exact, and the words carry all bits of all
elements. -/
structure Accounts (side : Side) (folded : Shape) (count : Nat) : Prop where
  folds : converter.foldedShape side = .ok folded
  counts : converter.wordCount side = .ok count
  uncapped : Uncapped folded.dims
  elements : product folded.dims = product converter.shape.dims
  words : count = product folded.outerDims
  bits : count * converter.width side =
    converter.shape.elementCount * converter.type.storageBits

theorem exists_accounts (side : Side) : ∃ folded count, converter.Accounts side folded count := by
  obtain ⟨channels, folds, folded⟩ := converter.folds side
  have uncapped := folds.uncapped_splitLast converter.uncapped
  have outer : Uncapped (converter.shape.splitLast channels
      (converter.width side / converter.type.storageBits)).outerDims :=
    fun front before => uncapped front (before.trans (List.dropLast_prefix _))
  refine ⟨_, Shape.outerCount _, folded, by rw [wordCount, folded]; rfl, uncapped,
    folds.product_splitLast, outer.cappedProduct_eq, ?_⟩
  rw [← folds.outerCount_mul converter.countable, Nat.mul_assoc, folds.perWord_mul]

theorem elementCount_eq_product :
    converter.shape.elementCount = product converter.shape.dims := by
  obtain ⟨_, folds, _⟩ := converter.folds .input
  rw [Shape.elementCount_eq_min folds.dims_ne_nil, Nat.min_eq_left converter.countable]

theorem width_positive (side : Side) : 0 < converter.width side := by
  obtain ⟨_, folds, _⟩ := converter.folds side
  exact folds.widthPositive

theorem width_dvd_of_le (narrow wide : Side) (le : converter.width narrow ≤ converter.width wide) :
    converter.width narrow ∣ converter.width wide := by
  have related := (Attributes.check_eq_ok_iff_legal.1 converter.accepted).related
  rw [Attributes.narrower, Attributes.wider] at related
  cases narrow with
  | input =>
      cases wide with
      | input => exact Nat.dvd_refl _
      | output =>
          have le : converter.attributes.inWidth ≤ converter.attributes.outWidth := le
          rwa [Nat.min_eq_left le, Nat.max_eq_right le] at related
  | output =>
      cases wide with
      | input =>
          have le : converter.attributes.outWidth ≤ converter.attributes.inWidth := le
          rwa [Nat.min_eq_right le, Nat.max_eq_left le] at related
      | output => exact Nat.dvd_refl _

theorem words_of_dvd {narrow wide narrowWords wideWords : Nat} (positive : 0 < narrow)
    (divides : narrow ∣ wide) (balance : narrowWords * narrow = wideWords * wide) :
    narrowWords = wide / narrow * wideWords := by
  apply Nat.eq_of_mul_eq_mul_right positive
  rw [balance, Nat.mul_right_comm, Nat.div_mul_cancel divides, Nat.mul_comm]

/-- Both streams of a converter carry the elements of its shape and the same number of bits, and the
words of the narrower one come in groups that make one word of the wider one. -/
theorem streams_balance : ∃ inFolded outFolded inWords outWords,
    converter.Accounts .input inFolded inWords ∧ converter.Accounts .output outFolded outWords ∧
    Uncapped converter.shape.dims ∧
    product converter.shape.dims = converter.shape.elementCount ∧
    inWords * converter.width .input = outWords * converter.width .output ∧
    (converter.width .input ≤ converter.width .output →
      inWords = converter.wordsCombined * outWords ∧
      converter.wordsCombined * converter.width .input = converter.width .output) ∧
    (converter.width .output < converter.width .input →
      converter.wordsCombined = 1 ∧
      outWords = converter.width .input / converter.width .output * inWords) := by
  obtain ⟨inFolded, inWords, input⟩ := converter.exists_accounts .input
  obtain ⟨outFolded, outWords, output⟩ := converter.exists_accounts .output
  have balance := input.bits.trans output.bits.symm
  refine ⟨inFolded, outFolded, inWords, outWords, input, output, converter.uncapped,
    converter.elementCount_eq_product.symm, balance, fun widens => ?_, fun narrows => ?_⟩
  · have divides := converter.width_dvd_of_le .input .output widens
    have ratio : converter.wordsCombined = converter.width .output / converter.width .input := by
      rw [wordsCombined]
      split
      · rfl
      · have same : converter.width .output = converter.width .input := by omega
        rw [same, Nat.div_self (converter.width_positive .input)]
    rw [ratio]
    exact ⟨words_of_dvd (converter.width_positive .input) divides balance,
      Nat.div_mul_cancel divides⟩
  · have divides := converter.width_dvd_of_le .output .input (Nat.le_of_lt narrows)
    exact ⟨if_neg (Nat.not_lt.2 (Nat.le_of_lt narrows)),
      words_of_dvd (converter.width_positive .output) divides balance.symm⟩

end Converter

end StreamWidth
