import StreamWidth.Converter
import StreamWidth.Proofs.Packing

/-!
What the checks of a converter guarantee: its element type is supported, its elements can be counted,
and its shape folds on both sides.
-/

namespace StreamWidth

theorem bind_eq_ok_iff {ε α β : Type} {first : Except ε α} {next : α → Except ε β} {result : β} :
    (first >>= next) = .ok result ↔ ∃ value, first = .ok value ∧ next value = .ok result := by
  cases first <;> simp [bind, Except.bind]

theorem bind_eq_error_iff {ε α β : Type} {first : Except ε α} {next : α → Except ε β}
    {failure : ε} :
    (first >>= next) = .error failure ↔
      first = .error failure ∨ ∃ value, first = .ok value ∧ next value = .error failure := by
  cases first <;> simp [bind, Except.bind]

theorem forall_of_mapM {α β : Type} {change : α → Except Failure β} {items : List α}
    {results : List β} (success : items.mapM change = .ok results) :
    ∀ item ∈ items, ∃ result, change item = .ok result := by
  induction items generalizing results with
  | nil => simp
  | cons item rest ih =>
      rw [List.mapM_cons, bind_eq_ok_iff] at success
      obtain ⟨first, found, more⟩ := success
      obtain ⟨others, later, _⟩ := bind_eq_ok_iff.1 more
      exact List.forall_mem_cons.2 ⟨⟨first, found⟩, ih later⟩

theorem ElementType.isSupported_of_checkSupported {type : ElementType}
    (checked : type.checkSupported = .ok ()) : type.isSupported = true := by
  rw [checkSupported] at checked
  split at checked
  · assumption
  · simp at checked

theorem Side.forall_iff {property : Side → Prop} :
    (∀ side, property side) ↔ property .input ∧ property .output := by
  constructor
  · exact fun every => ⟨every .input, every .output⟩
  · rintro ⟨input, output⟩ side
    cases side with
    | input => exact input
    | output => exact output

theorem Attributes.check_eq_ok_iff (attributes : Attributes) :
    attributes.check = .ok () ↔
      attributes.type.checkSupported = .ok () ∧ attributes.checkCount = .ok () ∧
        (∀ side, attributes.checkPadding side = .ok ()) ∧
        ∀ side, ∃ folded, attributes.foldedShape side = .ok folded := by
  simp only [check, bind_eq_ok_iff, Side.forall_iff]
  constructor
  · rintro ⟨_, supported, _, counted, _, inPadded, _, outPadded, input, inFolded, output, outFolded, _⟩
    exact ⟨supported, counted, ⟨inPadded, outPadded⟩, ⟨input, inFolded⟩, output, outFolded⟩
  · rintro ⟨supported, counted, ⟨inPadded, outPadded⟩, ⟨input, inFolded⟩, output, outFolded⟩
    exact ⟨(), supported, (), counted, (), inPadded, (), outPadded, input, inFolded, output,
      outFolded, rfl⟩

namespace Converter

variable (converter : Converter)

theorem checks : converter.type.checkSupported = .ok () ∧
    converter.attributes.checkCount = .ok () ∧
    (∀ side, converter.attributes.checkPadding side = .ok ()) ∧
    ∀ side, ∃ folded, converter.foldedShape side = .ok folded :=
  converter.attributes.check_eq_ok_iff.1 converter.accepted

theorem supported : converter.type.isSupported = true :=
  ElementType.isSupported_of_checkSupported converter.checks.1

theorem short : converter.type.storageBits ≤ Word.fieldLimit :=
  ElementType.storageBits_short converter.supported

theorem folds (side : Side) : ∃ channels,
    Shape.Folds converter.shape (converter.width side) converter.type.storageBits channels ∧
      converter.foldedShape side = .ok (converter.shape.splitLast channels
        (converter.width side / converter.type.storageBits)) := by
  obtain ⟨folded, success⟩ := converter.checks.2.2.2 side
  have steps := success
  rw [foldedShape, Attributes.foldedShape, bind_eq_ok_iff] at steps
  obtain ⟨_, _, fold⟩ := steps
  obtain ⟨channels, folds, rfl⟩ := (Shape.fold_eq_ok_iff _ _ _ _).1 fold
  exact ⟨channels, folds, success⟩

theorem folds_wordCount (side : Side) : ∃ channels,
    Shape.Folds converter.shape (converter.width side) converter.type.storageBits channels ∧
      converter.wordCount side = .ok (converter.shape.splitLast channels
        (converter.width side / converter.type.storageBits)).outerCount := by
  obtain ⟨channels, folds, folded⟩ := converter.folds side
  exact ⟨channels, folds, by rw [wordCount, folded]; rfl⟩

theorem countable : Shape.product converter.shape.dims ≤ Shape.countLimit := by
  obtain ⟨_, folds, _⟩ := converter.folds .input
  have counted := converter.checks.2.1
  rw [Attributes.checkCount] at counted
  split at counted
  · rename_i known
    exact Shape.product_le_of_exactCount known folds.dims_ne_nil
  · simp at counted

end Converter

end StreamWidth
