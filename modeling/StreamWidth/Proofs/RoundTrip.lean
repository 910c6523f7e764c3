import StreamWidth.Proofs.Codes
import StreamWidth.Proofs.Conversion

/-!
Tensors on their way: packing, conversion and unpacking all work on the one stream that a tensor
has, so what is unpacked at any width is what was packed at any other.
-/

namespace StreamWidth.Tensor

open BitStream (lowBits toWords ofWords numbers)

variable {tensor : Tensor} {width channels : Nat}

/-- A tensor that can be sent has values of a supported type, and no more than can be counted. -/
structure Sendable (tensor : Tensor) : Prop where
  supported : tensor.type.isSupported = true
  legal : tensor.firstDisallowed = .ok none
  countable : Shape.product tensor.shape.dims ≤ Shape.countLimit

/-- What arrives of a tensor. -/
def received (tensor : Tensor) : Tensor :=
  tensor.map tensor.type tensor.type.received

theorem firstDisallowed_eq_none_iff_legal (supported : tensor.type.isSupported = true) :
    tensor.firstDisallowed = .ok none ↔ ∀ x ∈ tensor.data, tensor.type.Legal x := by
  rw [firstDisallowed_eq_none_iff]
  exact forall_congr' fun x => imp_congr_right fun _ => ElementType.accepts_eq_true_iff supported x

theorem firstDisallowed_eq_none_iff_hasValue (supported : tensor.type.isSupported = true)
    {stream : List Bool} (decoded : tensor.data =
      (numbers tensor.type.storageBits stream).map tensor.type.ofElementCode) :
    tensor.firstDisallowed = .ok none ↔
      ∀ code ∈ numbers tensor.type.storageBits stream, tensor.type.hasValue code = true := by
  rw [firstDisallowed_eq_none_iff_legal supported, decoded, List.forall_mem_map]
  exact forall_congr' fun code => forall_congr' fun member =>
    ElementType.legal_ofElementCode_iff supported (BitStream.lt_of_mem_numbers member)

section

variable (folds : Shape.Folds tensor.shape width tensor.type.storageBits channels)
  (countable : Shape.product tensor.shape.dims ≤ Shape.countLimit)

include folds countable

theorem bits_length_eq :
    tensor.bits.length =
      (tensor.shape.splitLast channels (width / tensor.type.storageBits)).outerCount * width := by
  rw [bits_length, tensor.filled, ← folds.outerCount_mul countable, Nat.mul_assoc,
    folds.perWord_mul]

theorem length_toWords :
    (toWords width tensor.bits).length =
      (tensor.shape.splitLast channels (width / tensor.type.storageBits)).outerCount := by
  rw [BitStream.toWords_length, bits_length_eq folds countable,
    Nat.mul_div_cancel _ folds.widthPositive]

theorem dvd_bits_length : width ∣ tensor.bits.length := by
  rw [bits_length_eq folds countable]
  exact Nat.dvd_mul_left width _

theorem ofWords_toWords_bits : ofWords (toWords width tensor.bits) = tensor.bits :=
  BitStream.ofWords_toWords width tensor.bits (dvd_bits_length folds countable)

end

theorem numbers_bits (positive : 0 < tensor.type.storageBits) :
    numbers tensor.type.storageBits tensor.bits = tensor.data.map tensor.type.elementCode := by
  have bounded : ∀ code ∈ tensor.data.map tensor.type.elementCode,
      code < 2 ^ tensor.type.storageBits := by
    intro code member
    obtain ⟨x, _, rfl⟩ := List.mem_map.1 member
    exact tensor.type.elementCode_lt x
  have read := BitStream.numbers_lowBits _ positive _ bounded
  rwa [List.map_map] at read

theorem unpack_toWords (short : tensor.type.storageBits ≤ Word.fieldLimit)
    (folds : Shape.Folds tensor.shape width tensor.type.storageBits channels)
    (countable : Shape.product tensor.shape.dims ≤ Shape.countLimit)
    {change : Binary32 → Binary32} (each : ∀ x ∈ tensor.data,
      tensor.type.ofElementCode (tensor.type.elementCode x) = change x) :
    unpack (toWords width tensor.bits) tensor.type width tensor.shape =
      .ok (tensor.map tensor.type change) := by
  have decoded : (tensor.data.map tensor.type.elementCode).map tensor.type.ofElementCode =
      tensor.data.map change := by
    rw [List.map_map]
    exact List.map_congr_left each
  rw [unpack_eq_new short folds _ (length_toWords folds countable) fun word member =>
      BitStream.width_of_mem_toWords member,
    ofWords_toWords_bits folds countable, numbers_bits folds.bitsPositive, decoded, new,
    dif_pos (by rw [List.length_map, tensor.filled])]
  rfl

namespace Sendable

theorem legalValues (sendable : Sendable tensor) : ∀ x ∈ tensor.data, tensor.type.Legal x :=
  (firstDisallowed_eq_none_iff_legal sendable.supported).1 sendable.legal

theorem short (sendable : Sendable tensor) : tensor.type.storageBits ≤ Word.fieldLimit :=
  ElementType.storageBits_short sendable.supported

theorem map_decode_encode (sendable : Sendable tensor) :
    (tensor.data.map tensor.type.encode).map tensor.type.decode = tensor.data := by
  have same : tensor.data.map (tensor.type.decode ∘ tensor.type.encode) = tensor.data.map id :=
    List.map_congr_left fun x member => ElementType.decode_encode (sendable.legalValues x member)
  rw [List.map_map, same, List.map_id]

theorem pack_eq (sendable : Sendable tensor)
    (folds : Shape.Folds tensor.shape width tensor.type.storageBits channels) :
    tensor.pack width = .ok (toWords width tensor.bits) :=
  tensor.pack_eq_toWords sendable.short sendable.legal folds sendable.countable

/-- The words of a tensor at any width carry what arrives of it. -/
theorem unpack_eq (sendable : Sendable tensor)
    (folds : Shape.Folds tensor.shape width tensor.type.storageBits channels) :
    unpack (toWords width tensor.bits) tensor.type width tensor.shape = .ok tensor.received :=
  unpack_toWords sendable.short folds sendable.countable fun x member =>
    ElementType.ofElementCode_elementCode sendable.supported (sendable.legalValues x member)

theorem convert_eq {inWidth outWidth inChannels outChannels : Nat} (sendable : Sendable tensor)
    (inFolds : Shape.Folds tensor.shape inWidth tensor.type.storageBits inChannels)
    (outFolds : Shape.Folds tensor.shape outWidth tensor.type.storageBits outChannels)
    (artifact : String) (expected : Nat) :
    BitModel.convert ⟨artifact, toWords inWidth tensor.bits, inWidth, outWidth, expected⟩ =
      if tensor.data.length * tensor.type.storageBits < BitModel.bitLimit then
        .ok (toWords outWidth tensor.bits)
      else .error (.fault .integerOverflow) := by
  have stream := ofWords_toWords_bits inFolds sendable.countable
  have converted := BitModel.convert_of_whole
    ⟨artifact, toWords inWidth tensor.bits, inWidth, outWidth, expected⟩
    inFolds.widthPositive outFolds.widthPositive
    (fun word member => BitStream.width_of_mem_toWords member)
    (by rw [stream]; exact dvd_bits_length outFolds sendable.countable)
  rwa [stream, bits_length] at converted

theorem simulate_eq {inWidth outWidth inChannels outChannels : Nat} (sendable : Sendable tensor)
    (inFolds : Shape.Folds tensor.shape inWidth tensor.type.storageBits inChannels)
    (outFolds : Shape.Folds tensor.shape outWidth tensor.type.storageBits outChannels)
    (few : tensor.data.length * tensor.type.storageBits < BitModel.bitLimit)
    {world : World (Option BitModel.Statistics)} {artifact : String}
    (present : world.files.isFile artifact = true) (expected : Nat) :
    BitModel.backend.simulate world
        ⟨artifact, toWords inWidth tensor.bits, inWidth, outWidth, expected⟩ =
      (.ok (toWords outWidth tensor.bits),
        ⟨world.files, some (BitModel.statistics (toWords inWidth tensor.bits).length
          (toWords outWidth tensor.bits).length)⟩) :=
  BitModel.simulate_of_convert _ present
    ((sendable.convert_eq inFolds outFolds artifact expected).trans (if_pos few))

theorem simulate_of_many {inWidth outWidth inChannels outChannels : Nat}
    (sendable : Sendable tensor)
    (inFolds : Shape.Folds tensor.shape inWidth tensor.type.storageBits inChannels)
    (outFolds : Shape.Folds tensor.shape outWidth tensor.type.storageBits outChannels)
    (many : ¬tensor.data.length * tensor.type.storageBits < BitModel.bitLimit)
    {world : World (Option BitModel.Statistics)} {artifact : String}
    (present : world.files.isFile artifact = true) (expected : Nat) :
    BitModel.backend.simulate world
        ⟨artifact, toWords inWidth tensor.bits, inWidth, outWidth, expected⟩ =
      (.error (.fault .integerOverflow), world) :=
  BitModel.simulate_of_error _ present
    ((sendable.convert_eq inFolds outFolds artifact expected).trans (if_neg many))

end Sendable

theorem all_sameNumber_iff (change : Binary32 → Binary32) (data : List Binary32) :
    (((data.map change).zip data).all fun pair => pair.1.sameNumber pair.2) = true ↔
      ∀ x ∈ data, (change x).sameNumber x = true := by
  induction data with
  | nil => simp
  | cons x rest ih =>
      rw [List.map_cons, List.zip_cons_cons, List.all_cons, Bool.and_eq_true, ih,
        List.forall_mem_cons]

theorem sameNumbers_map_iff (change : Binary32 → Binary32) :
    (tensor.map tensor.type change).sameNumbers tensor = true ↔
      ∀ x ∈ tensor.data, (change x).sameNumber x = true := by
  rw [← all_sameNumber_iff]
  simp [sameNumbers, map]

theorem received_sameNumbers (sendable : Sendable tensor) :
    tensor.received.sameNumbers tensor = true :=
  (sameNumbers_map_iff _).2 fun x member => ElementType.received_sameNumber
    (ElementType.isFinite_of_legal (sendable.legalValues x member))

theorem received_float32 (float : tensor.type = .float32) : tensor.received = tensor := by
  obtain ⟨shape, data, type, filled⟩ := tensor
  have exact : type.received = id := by
    subst float
    rfl
  simp [received, map, exact]

theorem sendable_of_few (supported : tensor.type.isSupported = true)
    (allowed : ∀ x ∈ tensor.data, tensor.type.accepts x = .ok true)
    (few : tensor.data.length < Shape.countLimit)
    (folds : Shape.Folds tensor.shape width tensor.type.storageBits channels) : Sendable tensor :=
  ⟨supported, (firstDisallowed_eq_none_iff tensor).2 allowed,
    folds.countable_of_lt (by rwa [← tensor.filled])⟩

/-- Unpacking undoes packing at every width that the shape folds at. -/
theorem unpack_pack (tensor : Tensor) (width : Nat) (folded : Shape)
    (supported : tensor.type.isSupported = true) (few : tensor.data.length < capacity)
    (allowed : ∀ x ∈ tensor.data, tensor.type.accepts x = .ok true)
    (folds : tensor.shape.fold width tensor.type.storageBits = .ok folded) :
    ∃ words back, tensor.pack width = .ok words ∧ (∀ word ∈ words, word.width = width) ∧
      unpack words tensor.type width tensor.shape = .ok back ∧
      back.shape = tensor.shape ∧ back.type = tensor.type ∧
      back.data = tensor.data.map tensor.type.received ∧ back.sameNumbers tensor = true ∧
      (tensor.type = .float32 → back = tensor) := by
  obtain ⟨channels, folds, -⟩ := (Shape.fold_eq_ok_iff _ _ _ _).1 folds
  have sendable := sendable_of_few supported allowed (Nat.lt_trans few (by decide)) folds
  exact ⟨toWords width tensor.bits, tensor.received, sendable.pack_eq folds,
    fun word member => BitStream.width_of_mem_toWords member, sendable.unpack_eq folds, rfl, rfl,
    rfl, received_sameNumbers sendable, received_float32⟩

def sixIntegers : Tensor :=
  ⟨⟨[6]⟩, [.ofInt (-16), .ofMagnitude true 0, .ofInt (-1), .zero, .ofInt 7, .ofInt 15], .signed 5,
    rfl⟩

theorem sixIntegers_allowed :
    ∀ x ∈ sixIntegers.data, sixIntegers.type.accepts x = .ok true := by
  intro x member
  simp only [sixIntegers, List.mem_cons, List.not_mem_nil, or_false] at member
  rcases member with rfl | rfl | rfl | rfl | rfl | rfl <;> rfl

theorem unpack_pack_sixIntegers :
    ∃ words back, sixIntegers.pack 10 = .ok words ∧ (∀ word ∈ words, word.width = 10) ∧
      unpack words sixIntegers.type 10 sixIntegers.shape = .ok back ∧
      back.shape = sixIntegers.shape ∧ back.type = sixIntegers.type ∧
      back.data = sixIntegers.data.map sixIntegers.type.received ∧
      back.sameNumbers sixIntegers = true ∧ (sixIntegers.type = .float32 → back = sixIntegers) :=
  unpack_pack sixIntegers 10 ⟨[3, 2]⟩ rfl (by decide) sixIntegers_allowed rfl

/-- The converter block makes of the words at one width the words at another, whether or not one
width divides the other. -/
theorem simulate_pack (tensor : Tensor) (inWidth outWidth : Nat) (inFolded outFolded : Shape)
    (supported : tensor.type.isSupported = true)
    (allowed : ∀ x ∈ tensor.data, tensor.type.accepts x = .ok true)
    (inFolds : tensor.shape.fold inWidth tensor.type.storageBits = .ok inFolded)
    (outFolds : tensor.shape.fold outWidth tensor.type.storageBits = .ok outFolded)
    (few : tensor.data.length * tensor.type.storageBits < 2 ^ 63)
    (world : World (Option BitModel.Statistics)) (artifact : String)
    (present : world.files.isFile artifact = true) (expected : Nat) :
    ∃ inWords outWords, tensor.pack inWidth = .ok inWords ∧ tensor.pack outWidth = .ok outWords ∧
      ofWords inWords = ofWords outWords ∧
      BitModel.backend.simulate world ⟨artifact, inWords, inWidth, outWidth, expected⟩ =
          (.ok outWords,
          ⟨world.files, some (BitModel.statistics inWords.length outWords.length)⟩) := by
  obtain ⟨inChannels, inFolds, -⟩ := (Shape.fold_eq_ok_iff _ _ _ _).1 inFolds
  obtain ⟨outChannels, outFolds, -⟩ := (Shape.fold_eq_ok_iff _ _ _ _).1 outFolds
  have fewElements : tensor.data.length < Shape.countLimit :=
    calc tensor.data.length
        ≤ tensor.data.length * tensor.type.storageBits :=
          Nat.le_mul_of_pos_right _ (ElementType.storageBits_bounds supported).1
      _ < 2 ^ 63 := few
      _ ≤ Shape.countLimit := by decide
  have sendable := sendable_of_few supported allowed fewElements inFolds
  have stream := (ofWords_toWords_bits inFolds sendable.countable).trans
    (ofWords_toWords_bits outFolds sendable.countable).symm
  exact ⟨toWords inWidth tensor.bits, toWords outWidth tensor.bits, sendable.pack_eq inFolds,
    sendable.pack_eq outFolds, stream, sendable.simulate_eq inFolds outFolds
      (Nat.lt_trans few (by decide)) present expected⟩

def builtFiles : FileTree :=
  ⟨[(["project_dwc", "sol1", "impl", "verilog", "dwc_dwc.v"], .file .empty 0o644),
    (["project_dwc", "sol1", "impl", "verilog"], .directory 0o755),
    (["project_dwc", "sol1", "impl"], .directory 0o755),
    (["project_dwc", "sol1"], .directory 0o755), (["project_dwc"], .directory 0o755)], [], 0⟩

theorem isFile_builtFiles : builtFiles.isFile (Path.artifact "." "dwc") = true := by decide

theorem simulate_pack_sixIntegers :
    ∃ inWords outWords, sixIntegers.pack 10 = .ok inWords ∧ sixIntegers.pack 15 = .ok outWords ∧
      ofWords inWords = ofWords outWords ∧
      BitModel.backend.simulate ⟨builtFiles, none⟩
          ⟨Path.artifact "." "dwc", inWords, 10, 15, 2⟩ =
        (.ok outWords, ⟨builtFiles, some (BitModel.statistics inWords.length outWords.length)⟩) :=
  simulate_pack sixIntegers 10 15 ⟨[3, 2]⟩ ⟨[2, 3]⟩ rfl sixIntegers_allowed rfl rfl (by decide)
    ⟨builtFiles, none⟩ _ isFile_builtFiles 2

end StreamWidth.Tensor
