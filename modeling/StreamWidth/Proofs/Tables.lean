import StreamWidth.Dictionary.Lemmas
import StreamWidth.Proofs.Tags

/-!
Converters written as attribute tables and read back. A table gives every attribute as it was, but
dimensions are read within narrower bounds than they are written.
-/

namespace StreamWidth

theorem Shape.le_product {dims : List Nat} (nonzero : 0 ∉ dims) :
    0 < product dims ∧ ∀ dim ∈ dims, dim ≤ product dims := by
  induction dims with
  | nil => simp [product]
  | cons first rest ih =>
      obtain ⟨different, others⟩ := not_or.1 (mt List.mem_cons.2 nonzero)
      obtain ⟨positive, bounds⟩ := ih others
      have one : 0 < first := Nat.pos_of_ne_zero (Ne.symm different)
      exact ⟨Nat.mul_pos one positive, List.forall_mem_cons.2 ⟨Nat.le_mul_of_pos_right _ positive,
        fun dim member => Nat.le_trans (bounds dim member) (Nat.le_mul_of_pos_left _ one)⟩⟩

namespace Attributes

theorem positive_eq_ok {n : Nat} (key : String) (nonzero : 0 < n) (small : n < sizeLimit) :
    positive key n = .ok n :=
  if_pos ⟨Int.ofNat_lt.2 nonzero, small⟩

/-- A dimension that a table is read with as it was written. -/
def Readable (dim : Nat) : Prop :=
  0 < dim ∧ dim < sizeLimit

theorem Readable.tableDim_eq {dim : Nat} (readable : Readable dim) : tableDim dim = dim := by
  obtain ⟨nonzero, small⟩ := readable
  have limit : sizeLimit = 2 ^ 32 := rfl
  exact Int.bmod_eq_of_le (by omega) (by omega)

theorem Readable.positive_tableDim {dim : Nat} (readable : Readable dim) :
    positive shapeKey (tableDim dim) = .ok dim := by
  rw [readable.tableDim_eq, positive_eq_ok shapeKey readable.1 readable.2]

theorem bmod_cases {n modulus : Nat} (bounded : n < modulus) :
    Int.bmod n modulus = n ∨ Int.bmod n modulus < 0 := by
  have kept : (n : Int) % modulus = n :=
    Int.emod_eq_of_lt (Int.natCast_nonneg n) (Int.ofNat_lt.2 bounded)
  rw [Int.bmod_def, kept]
  split
  · exact Or.inl rfl
  · exact Or.inr (by omega)

theorem positive_tableDim_of_not_readable {dim : Nat} (unreadable : ¬Readable dim)
    (bounded : dim < 2 ^ 64) : positive shapeKey (tableDim dim) =
      .error (.configuration (.attributeRange shapeKey (tableDim dim))) := by
  refine if_neg fun inside => unreadable ?_
  have written : tableDim dim = dim ∨ tableDim dim < 0 := bmod_cases bounded
  rcases written with same | negative
  · rw [same] at inside
    exact ⟨Int.ofNat_lt.1 inside.1, inside.2⟩
  · exact absurd inside.1 (Int.not_lt.2 (Int.le_of_lt negative))

theorem positive_cases (key : String) (value : Int) :
    (∃ n, positive key value = .ok n) ∨
      positive key value = .error (.configuration (.attributeRange key value)) := by
  rw [positive]
  split
  · exact Or.inl ⟨_, rfl⟩
  · exact Or.inr rfl

theorem mapM_tableDim_cases (dims : List Nat)
    (bounded : 0 ∉ dims → ∀ dim ∈ dims, dim < 2 ^ 64) :
    (∀ dim ∈ dims, Readable dim) ∧
        dims.mapM (fun dim => positive shapeKey (tableDim dim)) = .ok dims ∨
      ∃ dim ∈ dims, ¬Readable dim ∧ dims.mapM (fun dim => positive shapeKey (tableDim dim)) =
        .error (.configuration (.attributeRange shapeKey (tableDim dim))) := by
  by_cases readable : ∀ dim ∈ dims, Readable dim
  · have each := fun dim member => (readable dim member).positive_tableDim
    exact Or.inl ⟨readable, by simpa using mapM_eq_ok dims each⟩
  · obtain ⟨large, among, unreadable, small⟩ :
        ∃ dim ∈ dims, ¬Readable dim ∧ dim < 2 ^ 64 := by
      by_cases zero : 0 ∈ dims
      · exact ⟨0, zero, fun readable => absurd readable.1 (by decide), by decide⟩
      · obtain ⟨dim, refused⟩ := Classical.not_forall.1 readable
        obtain ⟨member, unreadable⟩ := Classical.not_imp.1 refused
        exact ⟨dim, member, unreadable, bounded zero dim member⟩
    refine Or.inr ?_
    rcases mapM_cases (fun dim => positive shapeKey (tableDim dim)) dims with
      ⟨results, success⟩ | ⟨dim, member, failure, failed, stopped⟩
    · obtain ⟨n, read⟩ := forall_of_mapM success large among
      simp [positive_tableDim_of_not_readable unreadable small] at read
    · have unreadable : ¬Readable dim := fun readable => by
        simp [readable.positive_tableDim] at failed
      have cause : failure = .configuration (.attributeRange shapeKey (tableDim dim)) := by
        rcases positive_cases shapeKey (tableDim dim) with ⟨n, success⟩ | refused
        · simp [success] at failed
        · exact Except.error.inj (failed.symm.trans refused)
      exact ⟨dim, member, unreadable, cause ▸ stopped⟩

variable {attributes : Attributes}

def entry (attributes : Attributes) (key : String) : Option AttributeValue :=
  if key = shapeKey then some (.ints (attributes.shape.dims.map tableDim))
  else if key = Side.input.widthKey then some (.int attributes.inWidth)
  else if key = Side.output.widthKey then some (.int attributes.outWidth)
  else if key = typeKey then some (.string attributes.type.tag)
  else if key = backendKey then attributes.backend.map .string
  else if key = executionModeKey then attributes.executionMode.map .string
  else if key = functionalDirectoryKey then attributes.functionalDirectory.map .string
  else if key = hardwareDirectoryKey then attributes.hardwareDirectory.map .string
  else none

theorem get?_toTable (attributes : Attributes) (key : String) :
    attributes.toTable.get? key = attributes.entry key := by
  simp only [toTable, requiredTable, Dictionary.ofList, List.foldl_cons, List.foldl_nil,
    Dictionary.get?_insert?, Dictionary.get?_insert, Dictionary.get?_empty]
  by_cases known : key ∈ keys
  · simp only [keys, List.mem_cons, List.not_mem_nil, or_false] at known
    rcases known with rfl | rfl | rfl | rfl | rfl | rfl | rfl | rfl <;>
      simp [entry, shapeKey, typeKey, backendKey, executionModeKey, functionalDirectoryKey,
        hardwareDirectoryKey, Side.widthKey]
  · simp only [keys, List.mem_cons, List.not_mem_nil, or_false, not_or] at known
    simp [entry, known, Ne.symm]

theorem entry_eq_none {key : String} (unknown : key ∉ keys) : attributes.entry key = none := by
  simp only [keys, List.mem_cons, List.not_mem_nil, or_false, not_or] at unknown
  simp [entry, unknown]

theorem checkKeys_toTable (attributes : Attributes) : checkKeys attributes.toTable = .ok () := by
  have known : attributes.toTable.keys.find? (!keys.contains ·) = none := by
    refine List.find?_eq_none.2 fun key member => ?_
    have present : (attributes.toTable.get? key).isSome = true :=
      Dictionary.isSome_lookup_of_mem member
    rw [get?_toTable] at present
    have listed : key ∈ keys := Decidable.by_contra fun unknown => by
      simp [entry_eq_none unknown] at present
    simpa using listed
  rw [checkKeys, known]

theorem readShape_toTable (ranked : attributes.shape.dims ≠ []) :
    readShape attributes.toTable =
      (attributes.shape.dims.mapM fun dim => positive shapeKey (tableDim dim)).map Shape.mk := by
  have value : requiredInts attributes.toTable shapeKey =
      .ok (attributes.shape.dims.map tableDim) := by
    rw [requiredInts, required, get?_toTable]
    rfl
  have given : (attributes.shape.dims.map tableDim).isEmpty = false := by simpa using ranked
  have read : (attributes.shape.dims.map tableDim).mapM (positive shapeKey) =
      attributes.shape.dims.mapM fun dim => positive shapeKey (tableDim dim) := by
    simp [List.mapM_map, Function.comp_def]
  rw [readShape, value]
  simp only [bind, Except.bind, given, Bool.false_eq_true, ↓reduceIte, pure, Except.pure, read]
  cases attributes.shape.dims.mapM fun dim => positive shapeKey (tableDim dim) <;> rfl

theorem readWidth_toTable (side : Side) (nonzero : 0 < attributes.width side)
    (small : attributes.width side < sizeLimit) :
    readWidth attributes.toTable side = .ok (attributes.width side) := by
  have value : requiredInt attributes.toTable side.widthKey = .ok (attributes.width side) := by
    rw [requiredInt, required, get?_toTable]
    cases side <;> rfl
  rw [readWidth, value]
  exact positive_eq_ok side.widthKey nonzero small

theorem optionalString_eq_ok {table : AttributeTable} {key : String} {text : Option String}
    (value : table.get? key = text.map .string) : optionalString table key = .ok text := by
  rw [optionalString, value]
  cases text <;> rfl

theorem ofTable_toTable_of_legal (legal : attributes.Legal) :
    ofTable attributes.toTable =
      (attributes.shape.dims.mapM fun dim => positive shapeKey (tableDim dim)).map
        fun dims => { attributes with shape := ⟨dims⟩ } := by
  have ranked : attributes.shape.dims ≠ [] := List.length_pos_iff.1 legal.ranked
  have width (side : Side) := readWidth_toTable side (legal.width_positive side) (by
    have limit : sizeLimit = 2 ^ 32 := rfl
    have bound := legal.width_le side
    omega)
  have tag : requiredString attributes.toTable typeKey = .ok attributes.type.tag := by
    rw [requiredString, required, get?_toTable]
    rfl
  have supported := ElementType.isSupported_of_checkSupported legal.supported
  have backend := optionalString_eq_ok (attributes.get?_toTable backendKey)
  have mode := optionalString_eq_ok (attributes.get?_toTable executionModeKey)
  have functional := optionalString_eq_ok (attributes.get?_toTable functionalDirectoryKey)
  have hardware := optionalString_eq_ok (attributes.get?_toTable hardwareDirectoryKey)
  rw [ofTable, checkKeys_toTable, readShape_toTable ranked]
  simp only [width, tag, backend, mode, functional, hardware, bind, Except.bind,
    ElementType.ofTag_tag supported]
  cases attributes.shape.dims.mapM fun dim => Attributes.positive shapeKey (tableDim dim) with
  | error failure => rfl
  | ok dims => rfl

end Attributes

namespace Converter

/-- The table of a converter gives back the converter, unless a dimension is zero or takes more than
32 bits. The table is then refused for such a dimension, so no converter turns into another one. -/
theorem ofTable_toTable (converter : Converter) :
    (∀ dim ∈ converter.shape.dims, Attributes.Readable dim) ∧
        ofTable converter.signature converter.attributes.toTable = .ok converter ∨
      ∃ dim ∈ converter.shape.dims, ¬Attributes.Readable dim ∧
        ofTable converter.signature converter.attributes.toTable = .error (.configuration
          (.attributeRange Attributes.shapeKey (Attributes.tableDim dim))) := by
  have legal := Attributes.check_eq_ok_iff_legal.1 converter.accepted
  have bounded (nonzero : 0 ∉ converter.shape.dims) : ∀ dim ∈ converter.shape.dims, dim < 2 ^ 64 := by
    intro dim member
    have countable := converter.countable
    have limit : Shape.countLimit = 2 ^ 64 - 1 := rfl
    have bound := (Shape.le_product nonzero).2 dim member
    omega
  rw [ofTable, Attributes.ofTable_toTable_of_legal legal]
  rcases Attributes.mapM_tableDim_cases converter.shape.dims bounded with
    ⟨readable, read⟩ | ⟨dim, member, unreadable, refused⟩
  · refine Or.inl ⟨readable, ?_⟩
    rw [show converter.attributes.shape.dims.mapM _ = _ from read]
    exact new_eq_ok converter.signature converter.accepted
  · refine Or.inr ⟨dim, member, unreadable, ?_⟩
    rw [show converter.attributes.shape.dims.mapM _ = _ from refused]
    rfl

def emptied : Converter :=
  ⟨.single "dwc0" "inp" "outp", ⟨⟨[0]⟩, 1, 1, .binary, some "fpgadataflow", none, none, none⟩, rfl⟩

theorem ofTable_toTable_emptied :
    ¬∀ converter : Converter, ∃ again,
      ofTable converter.signature converter.attributes.toTable = .ok again ∧
        again.attributes = converter.attributes := by
  intro claim
  obtain ⟨again, read, _⟩ := claim emptied
  have refused : ofTable emptied.signature emptied.attributes.toTable =
      .error (.configuration (.attributeRange "shape" 0)) := rfl
  simp [refused] at read

end Converter

end StreamWidth
