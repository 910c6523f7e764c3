import StreamWidth.Converter.Hls
import StreamWidth.Engine
import StreamWidth.Proofs.Acceptance
import StreamWidth.Proofs.Evaluation

/-!
Stored forms. The words of a legal tensor are those of its stored elements, and what words are
unpacked to is decoded from what they are unpacked to in stored form. Bipolar elements are binary
ones in every stream, for every converter and in every run.
-/

namespace StreamWidth

section

variable {α β : Type} (change : α → β)

theorem Grouping.cut_map (size count : Nat) : ∀ items : List α,
    cut size count (items.map change) = (cut size count items).map (List.map change) := by
  induction count with
  | zero => exact fun _ => rfl
  | succ count ih =>
      intro items
      rw [cut, cut, List.map_cons, ← ih, List.map_take, List.map_drop]

theorem Grouping.groups_map (size : Nat) (items : List α) :
    groups size (items.map change) = (groups size items).map (List.map (List.map change)) := by
  rw [groups, groups, List.length_map, cut_map]
  split <;> rfl

end

namespace ElementType

theorem storage_storage (type : ElementType) : type.storage.storage = type.storage := by
  cases type <;> rfl

theorem encode_storage (type : ElementType) (x : Binary32) : type.storage.encode x = x := by
  cases type <;> rfl

theorem decode_storage (type : ElementType) (x : Binary32) : type.storage.decode x = x := by
  cases type <;> rfl

theorem storageBits_storage (type : ElementType) : type.storage.storageBits = type.storageBits := by
  rw [storageBits, storage_storage, storageBits]

theorem elementCode_encode (type : ElementType) (x : Binary32) :
    type.storage.elementCode (type.encode x) = type.elementCode x := by
  rw [elementCode, storage_storage, encode_storage, elementCode]

theorem decode_ofElementCode (type : ElementType) (code : Nat) :
    type.decode (type.storage.ofElementCode code) = type.ofElementCode code := by
  rw [ofElementCode, storage_storage, decode_storage, ofElementCode]

theorem accepts_encode {type : ElementType} {x : Binary32} (accepted : type.accepts x = .ok true) :
    type.storage.accepts (type.encode x) = .ok true := by
  cases type with
  | bipolar =>
      rcases eq_of_legal_bipolar ((accepts_eq_true_iff rfl x).1 accepted) with rfl | rfl
      · rfl
      · rfl
  | _ => exact accepted

end ElementType

theorem Word.putElements_encode (type : ElementType) (elements : List Binary32) :
    ∀ (word : Word) (index : Nat),
      word.putElements type.storage index (elements.map type.encode) =
        word.putElements type index elements := by
  induction elements with
  | nil => exact fun _ _ => rfl
  | cons x rest ih =>
      intro word index
      rw [List.map_cons, putElements, putElements, ElementType.storageBits_storage,
        ElementType.elementCode_encode]
      simp only [ih]

namespace Tensor

def stored (tensor : Tensor) : Tensor :=
  tensor.map tensor.type.storage tensor.type.encode

theorem stored_of_bipolar {tensor : Tensor} (bipolar : tensor.type = .bipolar) :
    tensor.stored = tensor.map .binary ElementType.bipolar.encode := by
  rw [stored, bipolar]
  rfl

theorem firstDisallowed_stored {tensor : Tensor} (legal : tensor.firstDisallowed = .ok none) :
    tensor.stored.firstDisallowed = .ok none := by
  rw [firstDisallowed_eq_none_iff] at legal ⊢
  exact List.forall_mem_map.2 fun x member => ElementType.accepts_encode (legal x member)

theorem pack_stored {tensor : Tensor} (legal : tensor.firstDisallowed = .ok none) (width : Nat) :
    tensor.stored.pack width = tensor.pack width := by
  have shape : tensor.stored.shape = tensor.shape := rfl
  have type : tensor.stored.type = tensor.type.storage := rfl
  have data : tensor.stored.data = tensor.data.map tensor.type.encode := rfl
  have words (groups : List (List Binary32)) :
      (groups.map (List.map tensor.type.encode)).mapM (Word.ofElements tensor.type.storage width) =
        groups.mapM (Word.ofElements tensor.type width) := by
    rw [List.mapM_map]
    congr 1
    funext group
    exact Word.putElements_encode tensor.type group (.zero width) 0
  -- Only the check of the values asks for the declared type.
  rw [pack, pack, legal, firstDisallowed_stored legal, shape, type, data,
    ElementType.storageBits_storage]
  simp only [Grouping.groups_map]
  cases tensor.shape.fold width tensor.type.storageBits with
  | error failure => rfl
  | ok folded =>
      cases groups : Grouping.groups folded.elementsPerWord tensor.data with
      | error failure => simp [bind, Except.bind, groups, Except.map]
      | ok pieces => simp [bind, Except.bind, groups, Except.map, words]

theorem map_new (shape : Shape) (data : List Binary32) (type other : ElementType)
    (change : Binary32 → Binary32) :
    (new shape data type).map (·.map other change) = new shape (data.map change) other := by
  rw [new, new]
  by_cases filled : data.length = shape.elementCount
  · rw [dif_pos filled, dif_pos (by simpa using filled)]
    rfl
  · rw [dif_neg filled, dif_neg (by simpa using filled), List.length_map]
    rfl

theorem unpack_storage (words : List Word) (type : ElementType) (width : Nat) (shape : Shape) :
    unpack words type width shape =
      (unpack words type.storage width shape).map (·.map type type.decode) := by
  rw [unpack, unpack, ElementType.storageBits_storage]
  cases shape.fold width type.storageBits with
  | error failure => rfl
  | ok folded =>
      simp only [bind, Except.bind]
      cases checkWords words width shape folded with
      | error failure => rfl
      | ok _ =>
          dsimp only
          cases words.mapM fun word => word.codes type.storageBits folded.elementsPerWord with
          | error failure => rfl
          | ok codes =>
              have decoded : (codes.flatten.map type.storage.ofElementCode).map type.decode =
                  codes.flatten.map type.ofElementCode := by
                rw [List.map_map]
                exact List.map_congr_left fun code _ => type.decode_ofElementCode code
              dsimp only
              rw [map_new, decoded]

end Tensor

namespace Attributes

variable (attributes : Attributes)

def stored : Attributes :=
  { attributes with type := attributes.type.storage }

theorem foldedShape_stored (side : Side) :
    attributes.stored.foldedShape side = attributes.foldedShape side := by
  rw [foldedShape, foldedShape, stored, ElementType.storageBits_storage]
  rfl

theorem check_stored : attributes.stored.check = attributes.check := by
  have supported : attributes.stored.type.checkSupported = attributes.type.checkSupported := by
    rw [stored]
    cases attributes.type <;> rfl
  rw [check, check, supported, foldedShape_stored, foldedShape_stored]
  rfl

end Attributes

namespace Converter

variable (converter : Converter)

def stored : Converter :=
  ⟨converter.signature, converter.attributes.stored,
    converter.attributes.check_stored.trans converter.accepted⟩

theorem attributes_of_new {signature : Signature} {attributes : Attributes} {converter : Converter}
    (made : new signature attributes = .ok converter) : converter.attributes = attributes := by
  rw [new_eq_ok signature (check_of_new_eq_ok made)] at made
  exact congrArg Converter.attributes (Except.ok.inj made.symm)

theorem new_stored (signature : Signature) (attributes : Attributes) :
    new signature attributes.stored = (new signature attributes).map stored := by
  cases checked : attributes.check with
  | ok =>
      rw [new_eq_ok signature checked,
        new_eq_ok signature (attributes.check_stored.trans checked)]
      rfl
  | error failure =>
      rw [(new_eq_error_iff signature).2 checked,
        (new_eq_error_iff signature).2 (attributes.check_stored.trans checked)]
      rfl

theorem foldedShape_stored (side : Side) :
    converter.stored.foldedShape side = converter.foldedShape side :=
  converter.attributes.foldedShape_stored side

theorem wordCount_stored (side : Side) :
    converter.stored.wordCount side = converter.wordCount side := by
  rw [wordCount, wordCount, foldedShape_stored]

theorem kernelParameters_stored :
    converter.stored.kernelParameters = converter.kernelParameters := by
  have element : converter.stored.type.storage = converter.type.storage :=
    converter.type.storage_storage
  rw [kernelParameters, kernelParameters, foldedShape_stored, element]
  rfl

end Converter

section

variable {converter : Converter} {tensor : Tensor}

theorem checkInput_stored (checked : checkInput converter tensor = .ok ()) :
    checkInput converter.stored tensor.stored = .ok () := by
  obtain ⟨shape, type, legal⟩ := (checkInput_eq_ok_iff converter tensor).1 checked
  exact (checkInput_eq_ok_iff _ _).2
    ⟨shape, congrArg ElementType.storage type, Tensor.firstDisallowed_stored legal⟩

theorem simulationRequest_stored (root : Option String) (files : FileTree)
    (checked : checkInput converter tensor = .ok ()) :
    simulationRequest root files converter.stored tensor.stored =
      simulationRequest root files converter tensor := by
  obtain ⟨_, _, legal⟩ := (checkInput_eq_ok_iff converter tensor).1 checked
  rw [simulationRequest, simulationRequest, converter.wordCount_stored, Tensor.pack_stored legal]
  rfl

theorem receive_stored (converter : Converter) (result : SimulationResult) :
    receive converter result =
      (receive converter.stored result).map (·.map converter.type converter.type.decode) := by
  cases result with
  | error failure => rfl
  | ok words => exact Tensor.unpack_storage words _ _ _

theorem receive_checkOutput (converter : Converter) (result : SimulationResult) :
    (receive converter result).bind (checkOutput converter) = receive converter result := by
  cases received : receive converter result with
  | error failure => rfl
  | ok output =>
      cases result with
      | error failure => simp [receive] at received
      | ok words =>
          rw [receive] at received
          rw [← received]
          exact ((unpack_checkOutput_iff converter words output).2 received).trans received.symm

theorem Engine.run_stored {State : Type} (engine : Engine State)
    (checked : checkInput converter tensor = .ok ()) (mode : ExecutionMode) (world : World State) :
    engine.run converter tensor mode world =
      ((engine.run converter.stored tensor.stored mode world).1.map
          (·.map converter.type converter.type.decode),
        (engine.run converter.stored tensor.stored mode world).2) := by
  have storedChecked := checkInput_stored checked
  cases mode with
  | functional =>
      -- On values both runs give back what they were given, and decoding undoes the storing.
      have restored : tensor.stored.map converter.type converter.type.decode = tensor := by
        obtain ⟨_, type, _⟩ := (checkInput_eq_ok_iff converter tensor).1 checked
        have data := (sendable_of_checkInput checked).map_decode_encode
        obtain ⟨dims, elements, own, filled⟩ := tensor
        subst type
        simpa only [Tensor.stored, Tensor.map, Tensor.mk.injEq, true_and, and_true] using data
      rw [run_of_checked engine checked, run_of_checked engine storedChecked, Except.map, restored]
  | cosimulation =>
      have same := simulationRequest_stored engine.hardwareRoot world.files checked
      cases requested : simulationRequest engine.hardwareRoot world.files converter tensor with
      | error failure => simp only [run, checked, storedChecked, evaluate, same, requested]; rfl
      | ok request =>
          rw [run_of_request engine checked requested,
            run_of_request engine storedChecked (same.trans requested), receive_checkOutput,
            receive_checkOutput, receive_stored converter]

end

/-- Bipolar elements are binary ones wherever they travel: in words, in what words are unpacked to,
and in the converters, their kernels and their runs. -/
theorem bipolar_travels_as_binary :
    (∀ tensor : Tensor, tensor.type = .bipolar →
      (∀ x ∈ tensor.data, x = .ofInt 1 ∨ x = .ofInt (-1)) →
      (tensor.map .binary ElementType.bipolar.encode).firstDisallowed = .ok none ∧
      ∀ width, tensor.pack width = (tensor.map .binary ElementType.bipolar.encode).pack width ∧
        ∀ folded, tensor.shape.fold width 1 = .ok folded → tensor.data.length < Tensor.capacity →
          ∃ words, tensor.pack width = .ok words) ∧
    (∀ words width shape, Tensor.unpack words .bipolar width shape =
      (Tensor.unpack words .binary width shape).map (·.map .bipolar ElementType.bipolar.decode)) ∧
    ∀ (signature : Signature) (attributes : Attributes),
      (∀ failure, Converter.new signature { attributes with type := .bipolar } = .error failure ↔
        Converter.new signature { attributes with type := .binary } = .error failure) ∧
      ((∃ bipolar, Converter.new signature { attributes with type := .bipolar } = .ok bipolar) ↔
        ∃ binary, Converter.new signature { attributes with type := .binary } = .ok binary) ∧
      ∀ bipolar binary, Converter.new signature { attributes with type := .bipolar } = .ok bipolar →
        Converter.new signature { attributes with type := .binary } = .ok binary →
        (∀ side, binary.foldedShape side = bipolar.foldedShape side ∧
          binary.wordCount side = bipolar.wordCount side) ∧
        (∀ directory, Hls.fragments binary directory = Hls.fragments bipolar directory) ∧
        ∀ {State : Type} (engine : Engine State) (tensor : Tensor) (mode : ExecutionMode)
            (world : World State), checkInput bipolar tensor = .ok () →
          engine.run bipolar tensor mode world =
            let (result, after) :=
              engine.run binary (tensor.map .binary ElementType.bipolar.encode) mode world
            (result.map (·.map .bipolar ElementType.bipolar.decode), after) := by
  refine ⟨?_, fun words width shape => Tensor.unpack_storage words .bipolar width shape, ?_⟩
  · intro tensor type signs
    have legal : tensor.firstDisallowed = .ok none := by
      rw [Tensor.firstDisallowed_eq_none_iff, type]
      intro x member
      rcases signs x member with rfl | rfl
      · rfl
      · rfl
    rw [← Tensor.stored_of_bipolar type]
    refine ⟨Tensor.firstDisallowed_stored legal, fun width =>
      ⟨(Tensor.pack_stored legal width).symm, fun folded folds few => ?_⟩⟩
    obtain ⟨channels, folds, _⟩ := (Shape.fold_eq_ok_iff _ _ _ _).1 folds
    have bits : tensor.type.storageBits = 1 := by
      rw [type]
      rfl
    rw [← bits] at folds
    have sendable := Tensor.sendable_of_few (by rw [type]; rfl)
      ((Tensor.firstDisallowed_eq_none_iff tensor).1 legal) (Nat.lt_trans few (by decide)) folds
    exact ⟨_, sendable.pack_eq folds⟩
  · intro signature attributes
    have made : Converter.new signature { attributes with type := .binary } =
        (Converter.new signature { attributes with type := .bipolar }).map Converter.stored :=
      Converter.new_stored signature { attributes with type := .bipolar }
    refine ⟨?_, ?_, ?_⟩
    · intro failure
      rw [made]
      cases Converter.new signature { attributes with type := .bipolar } <;> simp [Except.map]
    · rw [made]
      cases Converter.new signature { attributes with type := .bipolar } <;> simp [Except.map]
    · intro bipolar binary bipolarMade binaryMade
      rw [made, bipolarMade] at binaryMade
      obtain rfl := Except.ok.inj binaryMade
      have own : bipolar.type = .bipolar :=
        congrArg Attributes.type (Converter.attributes_of_new bipolarMade)
      refine ⟨fun side => ⟨bipolar.foldedShape_stored side, bipolar.wordCount_stored side⟩,
        fun directory => ?_, ?_⟩
      · rw [Hls.fragments, Hls.fragments, bipolar.kernelParameters_stored]
      · intro State engine tensor mode world checked
        have type := ((checkInput_eq_ok_iff bipolar tensor).1 checked).2.1.trans own
        rw [engine.run_stored checked, own, Tensor.stored_of_bipolar type]

def fourSigns : Tensor :=
  ⟨⟨[4]⟩, [.ofInt 1, .ofInt (-1), .ofInt (-1), .ofInt 1], .bipolar, rfl⟩

def fourSignsAttributes : Attributes :=
  ⟨⟨[4]⟩, 2, 4, .bipolar, none, none, none, none⟩

theorem bipolar_travels_as_binary_fourSigns :
    (∃ words, fourSigns.pack 2 = .ok words ∧
      (fourSigns.map .binary ElementType.bipolar.encode).pack 2 = .ok words) ∧
    ∃ bipolar binary, Converter.new (.single "dwc" "in" "out") fourSignsAttributes = .ok bipolar ∧
      Converter.new (.single "dwc" "in" "out") { fourSignsAttributes with type := .binary } =
        .ok binary ∧
      Hls.fragments binary "." = Hls.fragments bipolar "." := by
  obtain ⟨packed, _, made⟩ := bipolar_travels_as_binary
  obtain ⟨_, streams⟩ := packed fourSigns rfl (by decide)
  obtain ⟨same, delivered⟩ := streams 2
  obtain ⟨words, success⟩ := delivered _ rfl (by decide)
  obtain ⟨_, _, equal⟩ := made (.single "dwc" "in" "out") fourSignsAttributes
  have bipolar : fourSignsAttributes.check = .ok () := rfl
  have binary : fourSignsAttributes.stored.check = .ok () := rfl
  exact ⟨⟨words, success, same.symm.trans success⟩, _, _, Converter.new_eq_ok _ bipolar,
    Converter.new_eq_ok _ binary, (equal _ _ (Converter.new_eq_ok _ bipolar)
      (Converter.new_eq_ok _ binary)).2.1 "."⟩

end StreamWidth
