import StreamWidth.Proofs.Acceptance

/-!
The order of dimensions. A capped count does not depend on it. An exact count is given up at the
first product beyond the limit, which a zero that comes later cannot undo.
-/

namespace StreamWidth

namespace Shape

theorem leadingDims_of_not_mem {dims : List Nat} (positive : 0 ∉ dims) :
    leadingDims dims = dims := by
  induction dims with
  | nil => rfl
  | cons dim rest ih =>
      simp only [List.mem_cons, not_or] at positive
      rw [leadingDims_cons (Ne.symm positive.1), ih positive.2]

theorem product_perm {left right : List Nat} (same : left.Perm right) :
    product left = product right := by
  induction same with
  | nil => rfl
  | cons dim _ ih => rw [product, product, ih]
  | swap first second rest => simp only [product, Nat.mul_left_comm]
  | trans _ _ ihLeft ihRight => exact ihLeft.trans ihRight

theorem elementCount_perm {left right : Shape} (same : left.dims.Perm right.dims) :
    left.elementCount = right.elementCount := by
  by_cases empty : left.dims = []
  · have others : right.dims = [] := List.Perm.nil_eq (empty ▸ same) |>.symm
    rw [elementCount, elementCount, if_pos empty, if_pos others]
  · have ranked : right.dims ≠ [] := fun others => empty (List.Perm.eq_nil (others ▸ same))
    rw [elementCount_eq_min empty, elementCount_eq_min ranked, product_perm same]

end Shape

namespace Attributes

variable (attributes : Attributes) (shape : Shape)

theorem foldedShape_ne_tooMany (side : Side) :
    attributes.foldedShape side ≠ .error (.configuration (.tooManyElements shape)) := by
  intro refused
  rw [foldedShape, bind_eq_error_iff] at refused
  rcases refused with relation | ⟨_, _, fold⟩
  · simp only [Width.checkRelation] at relation
    repeat' split at relation
    all_goals simp at relation
  · simp only [Shape.fold] at fold
    repeat' split at fold
    all_goals simp at fold

theorem check_eq_tooMany_iff :
    attributes.check = .error (.configuration (.tooManyElements shape)) ↔
      attributes.type.checkSupported = .ok () ∧ attributes.shape.exactCount? = none ∧
        shape = attributes.shape := by
  have supported : attributes.type.checkSupported ≠
      .error (.configuration (.tooManyElements shape)) := by
    rw [ElementType.checkSupported]
    split <;> simp
  have counted : attributes.checkCount = .error (.configuration (.tooManyElements shape)) ↔
      attributes.shape.exactCount? = none ∧ shape = attributes.shape := by
    rw [checkCount]
    cases attributes.shape.exactCount? with
    | none => simp [eq_comm]
    | some count => simp
  have padded (side : Side) : attributes.checkPadding side ≠
      .error (.configuration (.tooManyElements shape)) := by
    rw [checkPadding]
    split <;> simp
  have folded := attributes.foldedShape_ne_tooMany shape
  -- Of all checks only that of the count gives this error, and only the type is checked before it.
  rw [check, bind_eq_error_iff, or_iff_right supported]
  simp only [bind_eq_error_iff, counted, padded, folded, pure, Except.pure,
    reduceCtorEq, and_false, exists_false, or_false, exists_and_right]
  refine and_congr_left fun _ => ⟨?_, fun checked => ⟨(), checked⟩⟩
  rintro ⟨_, checked⟩
  exact checked

end Attributes

namespace Shape

/-- Capped counts are exact up to the limit in whatever order the dimensions come. Exact counts are,
too, unless a dimension is zero: then those before it decide whether the count is known, and whether
a converter of a supported type is refused for its size. -/
theorem counts_exact {shape : Shape} (ranked : shape.dims ≠ []) :
    shape.elementCount = min (product shape.dims) countLimit ∧
    (∀ count, shape.exactCount? = some count ↔
      product (leadingDims shape.dims) ≤ countLimit ∧ count = product shape.dims) ∧
    (0 ∉ shape.dims → (shape.exactCount? = none ↔ 2 ^ 64 ≤ product shape.dims)) ∧
    (∀ count, shape.exactCount? = some count → shape.elementCount = count) ∧
    (∀ other : Shape, other.dims.Perm shape.dims → other.elementCount = shape.elementCount ∧
      (0 ∉ shape.dims → other.exactCount? = shape.exactCount?)) ∧
    ∀ signature attributes, attributes.shape = shape →
      (Converter.new signature attributes = .error (.configuration (.tooManyElements shape)) ↔
        attributes.type.checkSupported = .ok () ∧
          countLimit < product (leadingDims shape.dims)) := by
  have limit : countLimit = 2 ^ 64 - 1 := rfl
  have counted := exactCount?_of_ranked ranked
  refine ⟨elementCount_eq_min ranked, fun count => ?_, fun positive => ?_, fun count found => ?_,
    fun other same => ⟨elementCount_perm same, fun positive => ?_⟩,
    fun signature attributes own => ?_⟩
  · rw [counted, exactProduct?_eq_some_iff]
  · rw [counted, exactProduct?_eq_none_iff, leadingDims_of_not_mem positive]
    omega
  · rw [counted] at found
    rw [elementCount_eq_min ranked, Nat.min_eq_left (product_le_of_exactProduct found),
      ((exactProduct?_eq_some_iff _ count).1 found).2]
  · -- Without a zero the leading dimensions are all of them, whose product knows no order.
    have others : 0 ∉ other.dims := fun zero => positive (same.subset zero)
    have nonempty : other.dims ≠ [] := fun empty => ranked (List.Perm.eq_nil (empty ▸ same.symm))
    rw [counted, exactCount?_of_ranked nonempty, exactProduct?_eq, exactProduct?_eq,
      leadingDims_of_not_mem positive, leadingDims_of_not_mem others, product_perm same]
  · subst own
    rw [Converter.new_eq_error_iff, attributes.check_eq_tooMany_iff, counted,
      exactProduct?_eq_none_iff, and_iff_left rfl]

/-- Dimensions that pass the limit before one of them leaves no elements at all. -/
def emptiedLate : Shape :=
  ⟨[2 ^ 32, 2 ^ 32, 0]⟩

theorem counts_exact_emptiedLate : emptiedLate.dims ≠ [] ∧ emptiedLate.elementCount = 0 ∧
    emptiedLate.exactCount? = none ∧
    Converter.new (.single "dwc0" "inp" "outp")
        ⟨emptiedLate, 8, 8, .unsigned 2, none, none, none, none⟩ =
      .error (.configuration (.tooManyElements emptiedLate)) := by
  have ranked : emptiedLate.dims ≠ [] := by decide
  obtain ⟨capped, known, _, _, _, refused⟩ := counts_exact ranked
  refine ⟨ranked, capped.trans (by decide), ?_, (refused _ _ rfl).2 ⟨rfl, by decide⟩⟩
  cases found : emptiedLate.exactCount? with
  | none => rfl
  | some count => exact absurd ((known count).1 found).1 (by decide)

/-- A zero that comes last is not seen: the count is unknown, in another order it is zero, and a
converter of no elements is refused for having too many. -/
theorem exactCount?_misses_zero :
    (¬∀ shape : Shape, shape.dims ≠ [] → product shape.dims < 2 ^ 64 →
      shape.exactCount? = some (product shape.dims)) ∧
    (¬∀ left right : Shape, left.dims.Perm right.dims → left.exactCount? = right.exactCount?) ∧
    ¬∀ signature attributes, Converter.new signature attributes =
        .error (.configuration (.tooManyElements attributes.shape)) →
      2 ^ 64 ≤ product attributes.shape.dims := by
  have unknown : emptiedLate.exactCount? = none := by decide
  refine ⟨fun counted => ?_, fun unordered => ?_, fun large => ?_⟩
  · have known := counted emptiedLate (by decide) (by decide)
    simp [unknown] at known
  · have same : emptiedLate.dims.Perm [0, 2 ^ 32, 2 ^ 32] := by decide
    have known : exactCount? ⟨[0, 2 ^ 32, 2 ^ 32]⟩ = some 0 := by decide
    have moved := unordered emptiedLate ⟨[0, 2 ^ 32, 2 ^ 32]⟩ same
    exact absurd (unknown.symm.trans (moved.trans known)) (by simp)
  · exact absurd (large (.single "dwc0" "inp" "outp")
      ⟨emptiedLate, 8, 8, .unsigned 2, none, none, none, none⟩ rfl) (by decide)

end Shape

end StreamWidth
