import StreamWidth.Packing

/-!
Element counts and folded shapes. Capped counts are exact for every shape whose product can be
counted; a count that is given up beyond the limit is decided by the dimensions before the first
zero. A folded shape holds the elements of the shape it comes from.
-/

namespace StreamWidth.Shape

def product : List Nat → Nat
  | [] => 1
  | dim :: rest => dim * product rest

theorem product_append (outer inner : List Nat) :
    product (outer ++ inner) = product outer * product inner := by
  induction outer with
  | nil => simp [product]
  | cons dim rest ih => simp [product, ih, Nat.mul_assoc]

theorem cappedProduct_from (dims : List Nat) : ∀ start, start ≤ countLimit →
    dims.foldl (fun product dim => min (product * dim) countLimit) start =
      min (start * product dims) countLimit := by
  induction dims with
  | nil =>
      intro start bounded
      simp only [List.foldl_nil, product]
      omega
  | cons dim rest ih =>
      intro start _
      rw [List.foldl_cons, ih _ (Nat.min_le_right _ _), product, ← Nat.mul_assoc]
      by_cases small : start * dim ≤ countLimit
      · have kept : min (start * dim) countLimit = start * dim := Nat.min_eq_left small
        rw [kept]
      · have capped : min (start * dim) countLimit = countLimit := Nat.min_eq_right (by omega)
        rw [capped]
        -- A dimension of zero further on makes both counts zero, whatever was capped before it.
        by_cases empty : product rest = 0
        · rw [empty, Nat.mul_zero, Nat.mul_zero]
        · have one : 1 ≤ product rest := Nat.pos_of_ne_zero empty
          have left := Nat.mul_le_mul_left countLimit one
          have right := Nat.mul_le_mul_left (start * dim) one
          omega

/-- A capped product stands for the product or for everything beyond the limit. -/
theorem cappedProduct_eq_min (dims : List Nat) :
    cappedProduct dims = min (product dims) countLimit := by
  rw [cappedProduct, cappedProduct_from dims 1 (by decide), Nat.one_mul]

theorem elementCount_eq_min {shape : Shape} (ranked : shape.dims ≠ []) :
    shape.elementCount = min (product shape.dims) countLimit := by
  rw [elementCount, if_neg ranked, cappedProduct_eq_min]

def leadingDims (dims : List Nat) : List Nat :=
  dims.takeWhile (· ≠ 0)

theorem leadingDims_zero (rest : List Nat) : leadingDims (0 :: rest) = [] :=
  rfl

theorem leadingDims_cons {dim : Nat} (nonzero : dim ≠ 0) (rest : List Nat) :
    leadingDims (dim :: rest) = dim :: leadingDims rest :=
  List.takeWhile_cons_of_pos (decide_eq_true nonzero)

theorem product_leadingDims_positive (dims : List Nat) : 0 < product (leadingDims dims) := by
  induction dims with
  | nil => decide
  | cons dim rest ih =>
      by_cases zero : dim = 0
      · rw [zero, leadingDims_zero]
        decide
      · rw [leadingDims_cons zero, product]
        exact Nat.mul_pos (Nat.pos_of_ne_zero zero) ih

theorem product_le_product_leadingDims (dims : List Nat) :
    product dims ≤ product (leadingDims dims) := by
  induction dims with
  | nil => exact Nat.le_refl _
  | cons dim rest ih =>
      by_cases zero : dim = 0
      · rw [zero, product, Nat.zero_mul]
        exact Nat.zero_le _
      · rw [leadingDims_cons zero, product, product]
        exact Nat.mul_le_mul_left dim ih

theorem exactProduct_zero (dims : List Nat) :
    dims.foldlM (fun count dim =>
      if count * dim ≤ countLimit then some (count * dim) else none) 0 = some 0 := by
  induction dims with
  | nil => rfl
  | cons dim rest ih => simpa [List.foldlM_cons] using ih

theorem exactProduct_eq_from (dims : List Nat) : ∀ start, 0 < start → start ≤ countLimit →
    dims.foldlM (fun count dim =>
      if count * dim ≤ countLimit then some (count * dim) else none) start =
      if start * product (leadingDims dims) ≤ countLimit then some (start * product dims)
      else none := by
  induction dims with
  | nil =>
      intro start _ bounded
      simp [leadingDims, product, bounded]
  | cons dim rest ih =>
      intro start positive bounded
      rw [List.foldlM_cons]
      by_cases zero : dim = 0
      · -- From here on the count is zero, whatever follows.
        have rest := exactProduct_zero rest
        simpa [zero, leadingDims_zero, product, bounded] using rest
      · rw [leadingDims_cons zero, product, product, ← Nat.mul_assoc, ← Nat.mul_assoc]
        by_cases small : start * dim ≤ countLimit
        · rw [if_pos small]
          exact ih (start * dim) (Nat.mul_pos positive (Nat.pos_of_ne_zero zero)) small
        · have atLeast : start * dim ≤ start * dim * product (leadingDims rest) :=
            Nat.le_mul_of_pos_right _ (product_leadingDims_positive rest)
          rw [if_neg small, if_neg (by omega)]
          rfl

/-- The product of the dimensions is known if those before the first zero stay within the limit. -/
theorem exactProduct?_eq (dims : List Nat) :
    exactProduct? dims =
      if product (leadingDims dims) ≤ countLimit then some (product dims) else none := by
  rw [exactProduct?, exactProduct_eq_from dims 1 (by decide) (by decide), Nat.one_mul, Nat.one_mul]

theorem exactProduct?_eq_some_iff (dims : List Nat) (count : Nat) :
    exactProduct? dims = some count ↔
      product (leadingDims dims) ≤ countLimit ∧ count = product dims := by
  rw [exactProduct?_eq]
  split
  · rename_i bounded
    simp [bounded, eq_comm]
  · rename_i exceeded
    simp [exceeded]

theorem exactProduct?_eq_none_iff (dims : List Nat) :
    exactProduct? dims = none ↔ countLimit < product (leadingDims dims) := by
  rw [exactProduct?_eq]
  split <;> simp <;> omega

theorem product_le_of_exactProduct {dims : List Nat} {count : Nat}
    (found : exactProduct? dims = some count) : product dims ≤ countLimit :=
  Nat.le_trans (product_le_product_leadingDims dims)
    ((exactProduct?_eq_some_iff dims count).1 found).1

theorem exactCount?_of_ranked {shape : Shape} (ranked : shape.dims ≠ []) :
    shape.exactCount? = exactProduct? shape.dims :=
  if_neg ranked

theorem product_le_of_exactCount {shape : Shape} (counted : shape.exactCount?.isSome = true)
    (ranked : shape.dims ≠ []) : product shape.dims ≤ countLimit := by
  rw [exactCount?_of_ranked ranked] at counted
  obtain ⟨count, found⟩ := Option.isSome_iff_exists.1 counted
  exact product_le_of_exactProduct found

/-- A stream of this width carries whole elements, and the innermost dimension fills whole words. -/
structure Folds (shape : Shape) (width bits channels : Nat) : Prop where
  widthPositive : 0 < width
  bitsPositive : 0 < bits
  divides : bits ∣ width
  innermost : shape.lastDim? = some channels
  whole : width / bits ∣ channels

namespace Folds

variable {shape : Shape} {width bits channels : Nat}

theorem dims_eq (folds : Folds shape width bits channels) :
    shape.dims = shape.outerDims ++ [channels] := by
  obtain ⟨outer, same⟩ := List.getLast?_eq_some_iff.1 folds.innermost
  rw [outerDims, same, List.dropLast_concat]

theorem dims_ne_nil (folds : Folds shape width bits channels) : shape.dims ≠ [] := by
  rw [folds.dims_eq]
  simp

theorem perWord_mul (folds : Folds shape width bits channels) : width / bits * bits = width :=
  Nat.div_mul_cancel folds.divides

theorem perWord_positive (folds : Folds shape width bits channels) : 0 < width / bits :=
  Nat.div_pos (Nat.le_of_dvd folds.widthPositive folds.divides) folds.bitsPositive

theorem product_splitLast (folds : Folds shape width bits channels) :
    product (shape.splitLast channels (width / bits)).dims = product shape.dims := by
  rw [splitLast, folds.dims_eq, product_append, product_append]
  simp [product, Nat.div_mul_cancel folds.whole]

theorem elementCount_splitLast (folds : Folds shape width bits channels) :
    (shape.splitLast channels (width / bits)).elementCount = shape.elementCount := by
  rw [elementCount_eq_min folds.dims_ne_nil, elementCount_eq_min (by simp [splitLast]),
    folds.product_splitLast]

theorem of_dvd (folds : Folds shape width bits channels) {narrow : Nat} (narrows : narrow ∣ width)
    (wholeElements : bits ∣ narrow) : Folds shape narrow bits channels :=
  ⟨Nat.pos_of_dvd_of_pos narrows folds.widthPositive, folds.bitsPositive, wholeElements,
    folds.innermost, Nat.dvd_trans (Nat.div_dvd_div wholeElements narrows) folds.whole⟩

theorem countable_of_lt (folds : Folds shape width bits channels)
    (few : shape.elementCount < countLimit) : product shape.dims ≤ countLimit := by
  rw [elementCount_eq_min folds.dims_ne_nil] at few
  omega

theorem elementsPerWord_splitLast (shape : Shape) (channels perWord : Nat) :
    (shape.splitLast channels perWord).elementsPerWord = perWord := by
  simp [elementsPerWord, lastDim?, splitLast]

theorem outerDims_splitLast (shape : Shape) (channels perWord : Nat) :
    (shape.splitLast channels perWord).outerDims = shape.outerDims ++ [channels / perWord] := by
  simp [splitLast, outerDims]

theorem product_outerDims_mul (folds : Folds shape width bits channels) :
    product (shape.splitLast channels (width / bits)).outerDims * (width / bits) =
      product shape.dims := by
  rw [outerDims_splitLast, ← folds.product_splitLast, splitLast, product_append, product_append]
  simp [product, Nat.mul_assoc]

theorem product_outerDims_of_dvd (folds : Folds shape width bits channels) {narrow : Nat}
    (narrows : narrow ∣ width) (wholeElements : bits ∣ narrow) :
    product (shape.splitLast channels (narrow / bits)).outerDims =
      width / narrow * product (shape.splitLast channels (width / bits)).outerDims := by
  have finer := folds.of_dvd narrows wholeElements
  have ratio : width / narrow * (narrow / bits) = width / bits := by
    rw [← Nat.mul_div_assoc _ wholeElements, Nat.div_mul_cancel narrows]
  apply Nat.eq_of_mul_eq_mul_right finer.perWord_positive
  rw [finer.product_outerDims_mul, Nat.mul_right_comm, ratio, Nat.mul_comm,
    folds.product_outerDims_mul]

theorem outerCount_mul (folds : Folds shape width bits channels)
    (countable : product shape.dims ≤ countLimit) :
    (shape.splitLast channels (width / bits)).outerCount * (width / bits) = shape.elementCount := by
  have whole := folds.product_outerDims_mul
  have atLeast : product (shape.splitLast channels (width / bits)).outerDims ≤
      product shape.dims := by
    rw [← whole]
    exact Nat.le_mul_of_pos_right _ folds.perWord_positive
  rw [outerCount, cappedProduct_eq_min, elementCount_eq_min folds.dims_ne_nil,
    Nat.min_eq_left countable, Nat.min_eq_left (Nat.le_trans atLeast countable), whole]

theorem countable_of_few_bits (folds : Folds shape width bits channels)
    (few : (shape.splitLast channels (width / bits)).outerCount * width < countLimit) :
    product shape.dims ≤ countLimit := by
  rw [outerCount, cappedProduct_eq_min] at few
  by_cases small :
      product (shape.splitLast channels (width / bits)).outerDims ≤ countLimit
  · rw [Nat.min_eq_left small] at few
    calc product shape.dims
        = product (shape.splitLast channels (width / bits)).outerDims * (width / bits) :=
          folds.product_outerDims_mul.symm
      _ ≤ product (shape.splitLast channels (width / bits)).outerDims * width :=
          Nat.mul_le_mul_left _ (Nat.div_le_self _ _)
      _ ≤ countLimit := Nat.le_of_lt few
  · rw [Nat.min_eq_right (Nat.le_of_not_le small)] at few
    exact absurd few (Nat.not_lt.2 (Nat.le_mul_of_pos_right _ folds.widthPositive))

end Folds

theorem fold_cases (shape : Shape) (width bits : Nat) :
    (∃ channels, Folds shape width bits channels ∧
      shape.fold width bits = .ok (shape.splitLast channels (width / bits))) ∨
    (¬∃ channels, Folds shape width bits channels) ∧
      ∃ cause, shape.fold width bits = .error (.configuration cause) := by
  simp only [fold]
  split
  · rename_i empty
    refine Or.inr ⟨fun ⟨_, folds⟩ => ?_, _, rfl⟩
    have widthPositive := folds.widthPositive
    have bitsPositive := folds.bitsPositive
    omega
  · split
    · rename_i partly
      exact Or.inr ⟨fun ⟨_, folds⟩ => partly (Nat.mod_eq_zero_of_dvd folds.divides), _, rfl⟩
    · cases innermost : shape.lastDim? with
      | none =>
          refine Or.inr ⟨fun ⟨_, folds⟩ => ?_, _, rfl⟩
          simp [folds.innermost] at innermost
      | some channels =>
          simp only
          split
          · rename_i partly
            refine Or.inr ⟨fun ⟨_, folds⟩ => partly ?_, _, rfl⟩
            obtain rfl := Option.some.inj (innermost.symm.trans folds.innermost)
            exact Nat.mod_eq_zero_of_dvd folds.whole
          · have folds : Folds shape width bits channels :=
              ⟨by omega, by omega, Nat.dvd_of_mod_eq_zero (by omega), innermost,
                Nat.dvd_of_mod_eq_zero (by omega)⟩
            exact Or.inl ⟨channels, folds, if_pos folds.elementCount_splitLast⟩

theorem fold_eq_ok_iff (shape folded : Shape) (width bits : Nat) :
    shape.fold width bits = .ok folded ↔
      ∃ channels, Folds shape width bits channels ∧
        folded = shape.splitLast channels (width / bits) := by
  rcases fold_cases shape width bits with ⟨channels, folds, success⟩ | ⟨unfoldable, cause, refused⟩
  · rw [success]
    constructor
    · intro same
      exact ⟨channels, folds, (Except.ok.inj same).symm⟩
    · rintro ⟨others, otherFolds, rfl⟩
      rw [Option.some.inj (folds.innermost.symm.trans otherFolds.innermost)]
  · rw [refused]
    exact iff_of_false (by simp) fun ⟨channels, folds, _⟩ => unfoldable ⟨channels, folds⟩

theorem parts_of_dims_eq {shape : Shape} {outer : List Nat} {channels : Nat}
    (dims : shape.dims = outer ++ [channels]) :
    shape.lastDim? = some channels ∧ shape.outerDims = outer := by
  constructor
  · rw [lastDim?, dims, List.getLast?_concat]
  · rw [outerDims, dims, List.dropLast_concat]

/-- Folding cuts the innermost dimension into words wherever the words can be filled, and refuses
everything else as a configuration. It keeps the product of the dimensions, and what folds at a
width folds at every divisor of it that carries whole elements. -/
theorem fold_exact (shape : Shape) (width bits : Nat) :
    (∀ folded, shape.fold width bits = .ok folded ↔
      0 < width ∧ 0 < bits ∧ bits ∣ width ∧ ∃ outer channels, shape.dims = outer ++ [channels] ∧
        width / bits ∣ channels ∧
        folded.dims = outer ++ [channels / (width / bits), width / bits]) ∧
    ((∃ folded, shape.fold width bits = .ok folded) ∨
      ∃ cause, shape.fold width bits = .error (.configuration cause)) ∧
    ∀ folded, shape.fold width bits = .ok folded →
      product folded.dims = product shape.dims ∧ folded.elementCount = shape.elementCount ∧
      ∀ narrow, narrow ∣ width → bits ∣ narrow → ∃ finer, shape.fold narrow bits = .ok finer ∧
        product finer.outerDims = width / narrow * product folded.outerDims := by
  refine ⟨fun folded => ?_, ?_, fun folded success => ?_⟩
  · rw [fold_eq_ok_iff]
    constructor
    · rintro ⟨channels, folds, rfl⟩
      exact ⟨folds.widthPositive, folds.bitsPositive, folds.divides, shape.outerDims, channels,
        folds.dims_eq, folds.whole, rfl⟩
    · rintro ⟨widthPositive, bitsPositive, divides, outer, channels, dims, whole, result⟩
      obtain ⟨innermost, front⟩ := parts_of_dims_eq dims
      refine ⟨channels, ⟨widthPositive, bitsPositive, divides, innermost, whole⟩, ?_⟩
      cases folded
      rw [splitLast, front, ← result]
  · rcases shape.fold_cases width bits with ⟨channels, _, success⟩ | ⟨_, refused⟩
    · exact Or.inl ⟨_, success⟩
    · exact Or.inr refused
  · obtain ⟨channels, folds, rfl⟩ := (fold_eq_ok_iff _ _ _ _).1 success
    refine ⟨folds.product_splitLast, folds.elementCount_splitLast,
      fun narrow narrows wholeElements => ?_⟩
    have finer := folds.of_dvd narrows wholeElements
    exact ⟨_, (fold_eq_ok_iff _ _ _ _).2 ⟨channels, finer, rfl⟩,
      folds.product_outerDims_of_dvd narrows wholeElements⟩

end StreamWidth.Shape
