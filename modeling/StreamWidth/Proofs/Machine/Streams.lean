import StreamWidth.Proofs.Converters
import StreamWidth.Proofs.Machine.Elements
import StreamWidth.Simulation.BitModel

/-!
Streams in machine integers. Wherever folding, packing, unpacking and the conversion of words give
a result, the machine gives the same one: offsets and counts stay below the width of a word, and
these widths have 32 bits.
-/

namespace StreamWidth.Machine

section

variable {α : Type}

def refuse (cause : ConfigurationError) : Except Stop α :=
  .error (.failure (.configuration cause))

end

def exceeds (left right : Nat) : Except Stop Bool :=
  if right < left then (rem left right).map fun rest => decide (rest ≠ 0) else .ok false

def checkRelation (inWidth outWidth : Nat) : Except Stop Unit := do
  if inWidth = 0 ∨ outWidth = 0 then refuse (.emptyStream inWidth outWidth)
  else if ← exceeds inWidth outWidth then refuse (.inputNotMultiple inWidth outWidth)
  else if ← exceeds outWidth inWidth then refuse (.outputNotMultiple inWidth outWidth)
  else return ()

def splitLast (shape : Shape) (perWord : Nat) : Except Stop Shape := do
  let channels ← item shape.dims (← sub shape.rank 1)
  return ⟨shape.outerDims ++ [← div channels perWord, perWord]⟩

def fold (shape : Shape) (width bits : Nat) : Except Stop Shape := do
  if bits = 0 ∨ width = 0 then refuse (.emptyFold width bits)
  else if (← rem width bits) ≠ 0 then refuse (.widthNotDivisible width bits)
  else
    match shape.lastDim? with
    | none => refuse .scalarShape
    | some channels =>
        let perWord ← div width bits
        if (← rem channels perWord) ≠ 0 then
          refuse (.channelsNotDivisible channels perWord width bits)
        else
          let folded ← splitLast shape perWord
          assert (folded.elementCount = shape.elementCount)
          return folded

theorem exceeds_eq_ok {left right : Nat} (nonzero : right ≠ 0) :
    exceeds left right = .ok (decide (right < left ∧ left % right ≠ 0)) := by
  rw [exceeds]
  split
  · rename_i larger
    rw [rem, trapUnless_of nonzero]
    simp only [Except.map, larger, true_and]
  · rename_i smaller
    simp [smaller]

theorem checkRelation_eq_settled (inWidth outWidth : Nat) :
    checkRelation inWidth outWidth = settled (Width.checkRelation inWidth outWidth) := by
  rw [checkRelation, Width.checkRelation]
  split
  · rfl
  · rename_i positive
    simp only [not_or] at positive
    simp only [exceeds_eq_ok positive.1, exceeds_eq_ok positive.2, bind, Except.bind,
      decide_eq_true_eq]
    split
    · rfl
    · split <;> rfl

theorem splitLast_eq_ok {shape : Shape} {channels perWord : Nat} (positive : perWord ≠ 0)
    (innermost : shape.lastDim? = some channels) :
    splitLast shape perWord = .ok (shape.splitLast channels perWord) := by
  rw [Shape.lastDim?, List.getLast?_eq_getElem?] at innermost
  have ranked : 1 ≤ shape.rank := by
    obtain ⟨inside, _⟩ := List.getElem?_eq_some_iff.1 innermost
    rw [Shape.rank]
    omega
  rw [splitLast, sub, trapUnless_of ranked]
  simp only [bind, Except.bind, item_of_getElem? innermost, Shape.rank, div, trapUnless_of positive]
  rfl

theorem fold_eq_settled (shape : Shape) (width bits : Nat) :
    fold shape width bits = settled (shape.fold width bits) := by
  rw [fold, Shape.fold]
  by_cases empty : bits = 0 ∨ width = 0
  · rw [if_pos empty, if_pos empty]
    rfl
  · have nonzero : bits ≠ 0 := fun zero => empty (Or.inl zero)
    rw [if_neg empty, if_neg empty, rem, trapUnless_of nonzero]
    simp only [bind, Except.bind]
    by_cases divides : width % bits ≠ 0
    · rw [if_pos divides, if_pos divides]
      rfl
    · rw [if_neg divides, if_neg divides]
      cases innermost : shape.lastDim? with
      | none => rfl
      | some channels =>
          have perWord : width / bits ≠ 0 := by
            have whole := Nat.div_mul_cancel (Nat.dvd_of_mod_eq_zero (Decidable.not_not.1 divides))
            intro zero
            rw [zero, Nat.zero_mul] at whole
            exact empty (Or.inr whole.symm)
          simp only [div, rem, trapUnless_of nonzero, trapUnless_of perWord]
          by_cases fills : channels % (width / bits) ≠ 0
          · rw [if_pos fills, if_pos fills]
            rfl
          · have folds : Shape.Folds shape width bits channels := {
              widthPositive := Nat.pos_of_ne_zero fun zero => empty (Or.inr zero)
              bitsPositive := Nat.pos_of_ne_zero nonzero
              divides := Nat.dvd_of_mod_eq_zero (Decidable.not_not.1 divides)
              innermost
              whole := Nat.dvd_of_mod_eq_zero (Decidable.not_not.1 fills) }
            rw [if_neg fills, if_neg fills, if_pos folds.elementCount_splitLast]
            simp only [splitLast_eq_ok perWord innermost, assert,
              trapUnless_of folds.elementCount_splitLast]
            rfl

section

variable {ε δ α β γ : Type}

/-- What every step does alike, all of them do alike. -/
theorem mapM_follows {change : α → Except ε β} {machine : α → Except δ γ} {view : β → γ}
    (items : List α)
    (each : ∀ item ∈ items, ∀ result, change item = .ok result →
      machine item = .ok (view result)) {results : List β} (success : items.mapM change = .ok results) :
    items.mapM machine = .ok (results.map view) := by
  induction items generalizing results with
  | nil =>
      obtain rfl := Except.ok.inj success
      rfl
  | cons item rest ih =>
      obtain ⟨first, others⟩ := List.forall_mem_cons.1 each
      rw [List.mapM_cons, bind_eq_ok_iff] at success
      obtain ⟨result, found, more⟩ := success
      obtain ⟨later, found', same⟩ := bind_eq_ok_iff.1 more
      obtain rfl := Except.ok.inj same
      rw [List.mapM_cons, first result found, ih others found']
      rfl

theorem foldlM_follows {σ τ : Type} {step : σ → α → Except ε σ} {machine : τ → α → Except δ τ}
    (view : σ → τ) (invariant : σ → Prop) (items : List α)
    (each : ∀ item ∈ items, ∀ state next, invariant state → step state item = .ok next →
      machine (view state) item = .ok (view next) ∧ invariant next) :
    ∀ {start last : σ}, invariant start → items.foldlM step start = .ok last →
      items.foldlM machine (view start) = .ok (view last) ∧ invariant last := by
  induction items with
  | nil =>
      intro start last holds success
      obtain rfl := Except.ok.inj success
      exact ⟨rfl, holds⟩
  | cons item rest ih =>
      intro start last holds success
      obtain ⟨first, others⟩ := List.forall_mem_cons.1 each
      rw [List.foldlM_cons, bind_eq_ok_iff] at success
      obtain ⟨next, stepped, success⟩ := success
      obtain ⟨same, kept⟩ := first start next holds stepped
      rw [List.foldlM_cons, same]
      exact ih others kept success

end

def groups {α : Type} (size : Nat) (items : List α) : Except Stop (List (List α)) :=
  trapUnless (size ≠ 0) .emptyGroup (Grouping.cut size ((items.length + size - 1) / size) items)

namespace Cells

def putElements (type : ElementType) (cells : Cells) :
    Nat → List Binary32 → Except Stop Cells
  | _, [] => .ok cells
  | index, x :: rest => do
      let raw ← encode type.storage (type.encode x)
      let offset ← mul 32 (index % 2 ^ 32) type.storageBits
      let cells ← cells.setBits offset type.storageBits raw
      cells.putElements type (index + 1) rest

def ofElements (type : ElementType) (width : Nat) (elements : List Binary32) :
    Except Stop Cells :=
  (zeroed width).putElements type 0 elements

end Cells

def pack (tensor : Tensor) (width : Nat) : Except Stop (List Cells) := do
  match ← firstRefused tensor.type 0 tensor.data with
  | some (index, value) =>
      .error (.failure (.validation (.unrepresentable value index tensor.type)))
  | none =>
      let folded ← fold tensor.shape width tensor.type.storageBits
      let groups ← groups folded.elementsPerWord tensor.data
      let words ← groups.mapM (Cells.ofElements tensor.type width)
      assert (words.length = folded.outerCount)
      return words

section

variable {type : ElementType} (supported : type.isSupported = true)
include supported

theorem putElements_ofWord (elements : List Binary32) : ∀ (word : Word) (index : Nat) (next : Word),
    word.width < 2 ^ 32 → word.putElements type index elements = .ok next →
    (Cells.ofWord word).putElements type index elements = .ok (Cells.ofWord next) := by
  induction elements with
  | nil =>
      intro word index next _ success
      obtain rfl := Except.ok.inj success
      rfl
  | cons x rest ih =>
      intro word index next small success
      rw [Word.putElements, bind_eq_ok_iff] at success
      obtain ⟨written, stored, rested⟩ := success
      obtain ⟨fits, sameWidth, _⟩ := Word.fits_of_setField stored
      obtain ⟨_, inside⟩ := Cells.le_of_fieldFits fits
      have short := ElementType.storageBits_short supported
      have positive := (ElementType.storageBits_bounds supported).1
      have reached : index ≤ index * type.storageBits := Nat.le_mul_of_pos_right _ positive
      rw [Cells.putElements, encode_eq_ok short,
        Nat.mod_eq_of_lt (by omega), mul, trapUnless_of (by omega)]
      have success : (Cells.ofWord word).setBits (index * type.storageBits) type.storageBits
          (type.storage.code (type.encode x)) = .ok (Cells.ofWord written) :=
        Cells.setBits_ofWord small stored
      simp only [bind, Except.bind, success]
      exact ih written (index + 1) next (by omega) rested

theorem ofElements_eq_ok {width : Nat} (small : width < 2 ^ 32) {elements : List Binary32}
    {word : Word} (success : Word.ofElements type width elements = .ok word) :
    Cells.ofElements type width elements = .ok (Cells.ofWord word) := by
  rw [Cells.ofElements, ← Cells.ofWord_zero]
  exact putElements_ofWord supported elements (.zero width) 0 word small success

end

theorem groups_eq_ok {α : Type} {size : Nat} {items : List α} {pieces : List (List α)}
    (success : Grouping.groups size items = .ok pieces) : groups size items = .ok pieces := by
  rw [Grouping.groups] at success
  split at success
  · simp at success
  · rename_i positive
    exact (trapUnless_of positive _ _).trans (congrArg _ (Except.ok.inj success))

theorem pack_eq_ok {tensor : Tensor} (supported : tensor.type.isSupported = true) {width : Nat}
    (small : width < 2 ^ 32) {words : List Word} (success : tensor.pack width = .ok words) :
    pack tensor width = .ok (words.map Cells.ofWord) := by
  rw [Tensor.pack, bind_eq_ok_iff] at success
  obtain ⟨refused, decided, success⟩ := success
  have same : firstRefused tensor.type 0 tensor.data = .ok refused := by
    rw [firstRefused_eq_settled supported, show Tensor.firstRefused tensor.type 0 tensor.data = _
      from decided]
    rfl
  cases refused with
  | some element => simp [bind, Except.bind] at success
  | none =>
      obtain ⟨folded, folding, success⟩ := bind_eq_ok_iff.1 success
      obtain ⟨pieces, grouped, success⟩ := bind_eq_ok_iff.1 success
      obtain ⟨packed, put, success⟩ := bind_eq_ok_iff.1 success
      have counted : packed.length = folded.outerCount :=
        Decidable.byContradiction fun different => by
          simp [different, bind, Except.bind] at success
      obtain rfl : packed = words := by simpa [counted, pure, Except.pure] using success
      have putAll := mapM_follows pieces
        (fun _ _ _ stored => ofElements_eq_ok supported small stored) put
      have sized : (packed.map Cells.ofWord).length = folded.outerCount := by
        rw [List.length_map, counted]
      rw [pack, same, fold_eq_settled, folding]
      simp only [bind, Except.bind, settled_ok, groups_eq_ok grouped, putAll, assert,
        trapUnless_of sized, pure, Except.pure]

def Cells.elements (type : ElementType) (cells : Cells) (count : Nat) :
    Except Stop (List Binary32) :=
  (List.range (count % 2 ^ 32)).mapM fun index => do
    let raw ← cells.getBits (← mul 32 index type.storageBits) type.storageBits
    return type.decode (← decode type.storage raw)

def checkWords (words : List Cells) (width : Nat) (shape folded : Shape) : Except Stop Unit :=
  if words.length ≠ folded.outerCount then
    .error (.failure (.shapeMismatch (.wordCount words.length width shape folded.outerCount)))
  else
    match words.find? (·.width != width) with
    | some word => .error (.failure (.shapeMismatch (.wordWidth word.width width)))
    | none => .ok ()

def unpack (words : List Cells) (type : ElementType) (width : Nat) (shape : Shape) :
    Except Stop Tensor := do
  let folded ← fold shape width type.storageBits
  checkWords words width shape folded
  let data ← words.mapM fun word => word.elements type folded.elementsPerWord
  settled (Tensor.new shape data.flatten type)

theorem checkWords_eq_settled (words : List Word) (width : Nat) (shape folded : Shape) :
    checkWords (words.map Cells.ofWord) width shape folded =
      settled (StreamWidth.checkWords words width shape folded) := by
  rw [checkWords, StreamWidth.checkWords, List.length_map, List.find?_map]
  split
  · rfl
  · rw [show (fun word : Cells => word.width != width) ∘ Cells.ofWord =
      fun word : Word => word.width != width from rfl]
    cases words.find? (·.width != width) <;> rfl

theorem elements_ofWord {type : ElementType} (supported : type.isSupported = true) {word : Word}
    (small : word.width < 2 ^ 32) {count : Nat} {codes : List Nat}
    (success : word.codes type.storageBits count = .ok codes) :
    (Cells.ofWord word).elements type count = .ok (codes.map type.ofElementCode) := by
  have short := ElementType.storageBits_short supported
  have positive := (ElementType.storageBits_bounds supported).1
  have counted : count < 2 ^ 32 := by
    rcases Nat.eq_zero_or_pos count with rfl | several
    · decide
    · obtain ⟨last, read⟩ := forall_of_mapM success (count - 1) (List.mem_range.2 (by omega))
      obtain ⟨_, inside⟩ := Cells.le_of_fieldFits (Word.fits_of_field read).1
      have reached : count - 1 ≤ (count - 1) * type.storageBits := Nat.le_mul_of_pos_right _ positive
      omega
  rw [Cells.elements, Nat.mod_eq_of_lt counted]
  refine mapM_follows _ (fun index _ code read => ?_) success
  obtain ⟨fits, value⟩ := Word.fits_of_field read
  obtain ⟨_, inside⟩ := Cells.le_of_fieldFits fits
  have bounded : code < 2 ^ type.storage.bitwidth := value ▸ Nat.mod_lt _ (Nat.two_pow_pos _)
  rw [mul, trapUnless_of (by omega)]
  simp only [bind, Except.bind, Cells.getBits_ofWord small read,
    decode_eq_ok positive short bounded]
  rfl

theorem unpack_eq_ok {type : ElementType} (supported : type.isSupported = true) {width : Nat}
    (small : width < 2 ^ 32) {shape : Shape} {words : List Word} {tensor : Tensor}
    (success : Tensor.unpack words type width shape = .ok tensor) :
    unpack (words.map Cells.ofWord) type width shape = .ok tensor := by
  rw [Tensor.unpack, bind_eq_ok_iff] at success
  obtain ⟨folded, folding, success⟩ := success
  obtain ⟨_, checked, success⟩ := bind_eq_ok_iff.1 success
  obtain ⟨codes, read, made⟩ := bind_eq_ok_iff.1 success
  obtain ⟨_, uniform⟩ := (checkWords_eq_ok_iff _ _ _ _).1 checked
  have data : (words.map Cells.ofWord).mapM (fun word =>
      word.elements type folded.elementsPerWord) =
        .ok (codes.map fun row => row.map type.ofElementCode) := by
    rw [List.mapM_map]
    refine mapM_follows words (fun word member row found => ?_) read
    exact elements_ofWord supported (by rw [uniform word member]; exact small) found
  rw [unpack, fold_eq_settled, folding]
  simp only [bind, Except.bind, settled_ok, checkWords_eq_settled, checked, data]
  rw [← List.map_flatten, made]
  rfl

structure Collector where
  complete : List Cells
  current : Cells
  fill : Nat

namespace Collector

def empty (width : Nat) : Collector :=
  ⟨[], .zeroed width, 0⟩

def take (width : Nat) (collector : Collector) (bit : Bool) : Except Stop Collector := do
  let current ← collector.current.setBit collector.fill bit
  let fill ← add 32 collector.fill 1
  if fill = width then
    return ⟨current :: collector.complete, .zeroed width, 0⟩
  return ⟨collector.complete, current, fill⟩

def takeWord (width count : Nat) (collector : Collector) (word : Cells) : Except Stop Collector :=
  (List.range count).foldlM
    (fun collector index => do collector.take width (← word.bit index)) collector

def ofModel (collector : BitModel.Collector) : Collector :=
  ⟨collector.complete.map Cells.ofWord, .ofWord collector.current, collector.fill⟩

section

variable {width : Nat} (small : width < 2 ^ 32)
include small

theorem take_ofModel {collector next : BitModel.Collector} {bit : Bool}
    (sized : collector.current.width = width) (success : collector.take width bit = .ok next) :
    (ofModel collector).take width bit = .ok (ofModel next) ∧ next.current.width = width := by
  rw [BitModel.Collector.take, bind_eq_ok_iff] at success
  obtain ⟨current, written, success⟩ := success
  obtain ⟨inside, sameWidth⟩ := Word.lt_of_setBit written
  have stored : (ofModel collector).current.setBit (ofModel collector).fill bit =
      .ok (.ofWord current) := Cells.setBit_ofWord written
  have counted : (ofModel collector).fill + 1 < 2 ^ 32 := by
    show collector.fill + 1 < 2 ^ 32
    omega
  rw [take, stored, add, trapUnless_of counted]
  by_cases full : collector.fill + 1 = width
  · rw [if_pos full] at success
    obtain rfl := Except.ok.inj success
    refine ⟨?_, rfl⟩
    simp [bind, Except.bind, ofModel, full, pure, Except.pure, Cells.ofWord_zero]
  · rw [if_neg full] at success
    obtain rfl := Except.ok.inj success
    refine ⟨?_, sameWidth.trans sized⟩
    simp [bind, Except.bind, ofModel, full, pure, Except.pure]

theorem takeWord_ofModel {collector next : BitModel.Collector} {word : Word} {count : Nat}
    (sized : collector.current.width = width)
    (success : collector.takeWord width count word = .ok next) :
    (ofModel collector).takeWord width count (.ofWord word) = .ok (ofModel next) ∧
      next.current.width = width := by
  rw [BitModel.Collector.takeWord] at success
  refine foldlM_follows ofModel (fun collector => collector.current.width = width)
    (List.range count) (fun index _ collector next sized success => ?_) sized success
  obtain ⟨bit, read, taken⟩ := bind_eq_ok_iff.1 success
  rw [Cells.bit_ofWord read]
  exact take_ofModel small sized taken

end

end Collector

def collect (words : List Cells) (inWidth outWidth : Nat) : Except Stop (List Cells) := do
  let collector ← words.foldlM (Collector.takeWord outWidth inWidth) (Collector.empty outWidth)
  return collector.complete.reverse

section

variable {α : Type}

def halt (cause : SimulationError) : Except Stop α :=
  .error (.failure (.ofSimulation cause))

end

def convert (words : List Cells) (inWidth outWidth : Nat) : Except Stop (List Cells) := do
  if inWidth = 0 ∨ outWidth = 0 then halt (.failed .zeroWidth)
  else
    match words.find? (·.width != inWidth) with
    | some word => halt (.failed (.wordWidth word.width inWidth))
    | none =>
        let bits ← mul 64 words.length inWidth
        if (← rem bits outWidth) ≠ 0 then halt (.failed (.partialWord bits outWidth))
        else
          let _ ← div bits outWidth
          collect words inWidth outWidth

theorem collect_eq_ok {request : SimulationRequest} (small : request.outWidth < 2 ^ 32)
    {words : List Word} (success : BitModel.collect request = .ok words) :
    collect (request.words.map Cells.ofWord) request.inWidth request.outWidth =
      .ok (words.map Cells.ofWord) := by
  rw [BitModel.collect, bind_eq_ok_iff] at success
  obtain ⟨last, taken, same⟩ := success
  obtain rfl := Except.ok.inj same
  have start : Collector.ofModel (.empty request.outWidth) = Collector.empty request.outWidth := by
    simp [Collector.ofModel, Collector.empty, BitModel.Collector.empty, Cells.ofWord_zero]
  have followed : request.words.foldlM (fun collector word =>
      collector.takeWord request.outWidth request.inWidth (.ofWord word))
      (Collector.ofModel (.empty request.outWidth)) = .ok (Collector.ofModel last) :=
    (foldlM_follows Collector.ofModel (fun collector => collector.current.width = request.outWidth)
      request.words (fun _ _ _ _ sized taken => Collector.takeWord_ofModel small sized taken) rfl
      taken).1
  rw [collect, List.foldlM_map, ← start, followed]
  simp [bind, Except.bind, pure, Except.pure, Collector.ofModel]

theorem convert_eq_ok {request : SimulationRequest} (small : request.outWidth < 2 ^ 32)
    {words : List Word} (success : BitModel.convert request = .ok words) :
    convert (request.words.map Cells.ofWord) request.inWidth request.outWidth =
      .ok (words.map Cells.ofWord) := by
  rw [BitModel.convert] at success
  split at success
  · simp at success
  · rename_i positive
    have nonzero : request.outWidth ≠ 0 := fun zero => positive (Or.inr zero)
    have widths : (request.words.map Cells.ofWord).find? (·.width != request.inWidth) =
        (request.words.find? (·.width != request.inWidth)).map Cells.ofWord :=
      List.find?_map ..
    rw [convert, if_neg positive, widths]
    cases found : request.words.find? (·.width != request.inWidth) with
    | some word => simp [found] at success
    | none =>
        simp only [found] at success
        split at success
        · simp at success
        · rename_i few
          have counted : (request.words.map Cells.ofWord).length * request.inWidth < 2 ^ 64 := by
            rw [List.length_map]
            exact Nat.lt_of_not_le few
          split at success
          · simp at success
          · rename_i whole
            rw [← List.length_map (f := Cells.ofWord)] at whole
            have collected : BitModel.collect request = .ok words := by
              cases made : BitModel.collect request with
              | error failure =>
                  rw [made] at success
                  exact nomatch (success : Except.error _ = _)
              | ok delivered =>
                  rw [made] at success
                  exact congrArg Except.ok (Except.ok.inj success)
            simp only [Option.map_none, mul, trapUnless_of counted, rem, trapUnless_of nonzero, div,
              bind, Except.bind, if_neg whole]
            exact collect_eq_ok small collected

end StreamWidth.Machine
