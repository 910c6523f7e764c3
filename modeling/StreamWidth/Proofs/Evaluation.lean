import StreamWidth.Engine
import StreamWidth.Proofs.Converters
import StreamWidth.Proofs.RoundTrip
import StreamWidth.Simulation.Replies

/-!
Runs of converters: both modes give back a legal input, and what a simulation answers is taken for a
tensor whatever its codes are.
-/

namespace StreamWidth

open BitStream (toWords ofWords numbers)

theorem checkInput_eq_ok_iff (converter : Converter) (tensor : Tensor) :
    checkInput converter tensor = .ok () ↔
      tensor.shape = converter.shape ∧ tensor.type = converter.type ∧
        tensor.firstDisallowed = .ok none := by
  by_cases shape : tensor.shape = converter.shape
  · by_cases type : tensor.type = converter.type
    · cases refused : tensor.firstDisallowed with
      | error failure => simp [checkInput, shape, type, refused, bind, Except.bind]
      | ok found =>
          cases found with
          | none => simp [checkInput, shape, type, refused, bind, Except.bind, pure, Except.pure]
          | some element => simp [checkInput, shape, type, refused, bind, Except.bind]
    · simp [checkInput, shape, type, bind, Except.bind]
  · simp [checkInput, shape, bind, Except.bind]

section

variable {converter : Converter} {tensor : Tensor}

theorem sendable_of_checkInput (checked : checkInput converter tensor = .ok ()) :
    tensor.Sendable := by
  obtain ⟨shape, type, legal⟩ := (checkInput_eq_ok_iff converter tensor).1 checked
  exact ⟨type ▸ converter.supported, legal, shape ▸ converter.countable⟩

theorem folds_of_checkInput (checked : checkInput converter tensor = .ok ()) (side : Side) :
    ∃ channels,
      Shape.Folds tensor.shape (converter.width side) tensor.type.storageBits channels := by
  obtain ⟨shape, type, _⟩ := (checkInput_eq_ok_iff converter tensor).1 checked
  obtain ⟨channels, folds, _⟩ := converter.folds side
  exact ⟨channels, by rwa [shape, type]⟩

/-- Storing, folding, unfolding and restoring leave a legal tensor as it was. -/
theorem evaluateFunctionally_eq_ok (checked : checkInput converter tensor = .ok ()) :
    evaluateFunctionally converter tensor = .ok tensor := by
  obtain ⟨shape, type, legal⟩ := (checkInput_eq_ok_iff converter tensor).1 checked
  obtain ⟨channels, folds, folded⟩ := converter.folds .input
  have count : (tensor.map converter.type.storage converter.type.encode).data.length =
      converter.shape.elementCount := by
    rw [Tensor.map, List.length_map, tensor.filled, shape]
  have restored := (sendable_of_checkInput checked).map_decode_encode
  obtain ⟨dims, data, own, filled⟩ := tensor
  subst shape type
  simp only [evaluateFunctionally, bind, Except.bind, pure, Except.pure, folded]
  rw [Tensor.reshape, dif_pos (count.trans folds.elementCount_splitLast.symm)]
  simp only [Tensor.reshape, dif_pos count]
  rw [Tensor.map]
  simp only [Tensor.map, restored]

theorem unpack_checkOutput_iff (converter : Converter) (words : List Word) (output : Tensor) :
    (Tensor.unpack words converter.type (converter.width .output) converter.shape).bind
        (checkOutput converter) = .ok output ↔
      Tensor.unpack words converter.type (converter.width .output) converter.shape =
        .ok output := by
  obtain ⟨channels, folds, _⟩ := converter.folds .output
  cases unpacked : Tensor.unpack words converter.type (converter.width .output) converter.shape with
  | error failure => simp [Except.bind]
  | ok back =>
      obtain ⟨_, _, shape, type, _⟩ :=
        (Tensor.unpack_eq_ok_iff converter.short folds words back).1 unpacked
      simp [Except.bind, checkOutput, shape, type]

theorem locateHardware_eq_ok {root : Option String} {files : FileTree} {directory : String}
    (found : (converter.attributes.hardwareDirectory <|> root) = some directory)
    (present : files.isFile (Path.artifact directory converter.name) = true) :
    locateHardware root files converter = .ok (Path.artifact directory converter.name) := by
  simp only [locateHardware, found, present, ↓reduceIte]

theorem simulationRequest_eq_ok (checked : checkInput converter tensor = .ok ())
    {root : Option String} {files : FileTree} {artifact : String}
    (located : locateHardware root files converter = .ok artifact) {expected : Nat}
    (counted : converter.wordCount .output = .ok expected) :
    simulationRequest root files converter tensor =
      .ok ⟨artifact, toWords (converter.width .input) tensor.bits, converter.width .input,
        converter.width .output, expected⟩ := by
  obtain ⟨channels, folds⟩ := folds_of_checkInput checked .input
  have packed := (sendable_of_checkInput checked).pack_eq folds
  simp only [simulationRequest, bind, Except.bind, pure, Except.pure, located, packed, counted]

namespace Engine

variable {State : Type}

theorem run_of_checked (engine : Engine State) {converter : Converter} {tensor : Tensor}
    (checked : checkInput converter tensor = .ok ()) (world : World State) :
    engine.run converter tensor .functional world = (.ok tensor, world) := by
  obtain ⟨shape, type, _⟩ := (checkInput_eq_ok_iff converter tensor).1 checked
  simp only [run, checked, evaluate, evaluateFunctionally_eq_ok checked, Except.bind, checkOutput,
    shape, type, ne_eq, not_true_eq_false, ↓reduceIte]

/-- A run in simulation asks the backend once and takes its answer as it is. -/
theorem run_of_request (engine : Engine State) {converter : Converter} {tensor : Tensor}
    {world : World State} {request : SimulationRequest}
    (checked : checkInput converter tensor = .ok ())
    (requested : simulationRequest engine.hardwareRoot world.files converter tensor = .ok request) :
    engine.run converter tensor .cosimulation world =
      ((receive converter (engine.backend.simulate world request).1).bind (checkOutput converter),
        (engine.backend.simulate world request).2) := by
  simp only [run, checked, evaluate, requested]

theorem run_cosimulation_eq_ok_iff (engine : Engine State) (converter : Converter)
    (tensor output : Tensor) (world after : World State) :
    engine.run converter tensor .cosimulation world = (.ok output, after) ↔
      checkInput converter tensor = .ok () ∧ ∃ request words,
        simulationRequest engine.hardwareRoot world.files converter tensor = .ok request ∧
        engine.backend.simulate world request = (.ok words, after) ∧
        Tensor.unpack words converter.type (converter.width .output) converter.shape =
          .ok output := by
  cases checked : checkInput converter tensor with
  | error failure => simp [run, checked]
  | ok =>
      cases requested : simulationRequest engine.hardwareRoot world.files converter tensor with
      | error failure => simp [run, evaluate, checked, requested, Except.bind]
      | ok request =>
          rw [run_of_request engine checked requested]
          constructor
          · intro success
            obtain ⟨delivered, reached⟩ := Prod.mk.inj success
            cases replied : (engine.backend.simulate world request).1 with
            | error failure => simp [replied, receive, Except.bind] at delivered
            | ok words =>
                rw [replied, receive, unpack_checkOutput_iff] at delivered
                exact ⟨rfl, request, words, rfl, Prod.ext replied reached, delivered⟩
          · rintro ⟨_, asked, words, same, replied, unpacked⟩
            obtain rfl := Except.ok.inj same
            rw [replied]
            simp only [receive, (unpack_checkOutput_iff converter words output).2 unpacked]

/-- Both modes give back what a converter accepts: on values bit by bit, in simulation up to the
sign of a zero that has no code of its own. -/
theorem run_modes_agree (converter : Converter) (tensor : Tensor)
    (checked : checkInput converter tensor = .ok ()) :
    (∀ {State : Type} (engine : Engine State) (world : World State),
      engine.run converter tensor .functional world = (.ok tensor, world)) ∧
    ∀ (engine : Engine (Option BitModel.Statistics)) (world : World (Option BitModel.Statistics))
        (directory : String), engine.backend = BitModel.backend →
      (converter.attributes.hardwareDirectory <|> engine.hardwareRoot) = some directory →
      world.files.isFile (Path.artifact directory converter.name) = true →
      tensor.data.length * tensor.type.storageBits < 2 ^ 64 →
      ∃ output memory,
        engine.run converter tensor .cosimulation world = (.ok output, ⟨world.files, memory⟩) ∧
        output.shape = tensor.shape ∧ output.type = tensor.type ∧
        output.data = tensor.data.map tensor.type.received ∧
        output.sameNumbers tensor = true ∧
        ∀ x ∈ tensor.data, tensor.type.received x = x ∨
          tensor.type ≠ .float32 ∧ x.magnitude = 0 ∧ tensor.type.received x = .zero := by
  obtain ⟨shape, type, legal⟩ := (checkInput_eq_ok_iff converter tensor).1 checked
  have sendable := sendable_of_checkInput checked
  refine ⟨fun engine world => ?_, fun engine world directory model found present few => ?_⟩
  · simp only [run, checked, evaluate, evaluateFunctionally_eq_ok checked, Except.bind,
      checkOutput, shape, type]
    simp
  · obtain ⟨_, inFolds⟩ := folds_of_checkInput checked .input
    obtain ⟨_, outFolds⟩ := folds_of_checkInput checked .output
    obtain ⟨_, _, count⟩ := converter.folds_wordCount .output
    obtain ⟨expected, counted⟩ : ∃ expected, converter.wordCount .output = .ok expected :=
      ⟨_, count⟩
    have requested := simulationRequest_eq_ok checked (locateHardware_eq_ok found present) counted
    have replied := sendable.simulate_eq inFolds outFolds few present expected
    have unpacked := sendable.unpack_eq outFolds
    rw [shape, type] at unpacked
    refine ⟨tensor.received, _, (run_cosimulation_eq_ok_iff _ _ _ _ _ _).2 ⟨checked, _, _, requested,
      by rw [model]; exact replied, unpacked⟩, rfl, rfl, rfl, Tensor.received_sameNumbers sendable,
      fun x _ => ElementType.received_eq _ x⟩

def sixIntegersConverter : Converter :=
  ⟨.single "dwc" "in" "out", ⟨⟨[6]⟩, 10, 30, .signed 5, none, none, none, none⟩, rfl⟩

theorem sixIntegers_checked : checkInput sixIntegersConverter Tensor.sixIntegers = .ok () :=
  (checkInput_eq_ok_iff _ _).2
    ⟨rfl, rfl, (Tensor.firstDisallowed_eq_none_iff _).2 Tensor.sixIntegers_allowed⟩

theorem run_modes_agree_sixIntegers :
    (new BitModel.backend).run sixIntegersConverter Tensor.sixIntegers .functional
        ⟨Tensor.builtFiles, none⟩ = (.ok Tensor.sixIntegers, ⟨Tensor.builtFiles, none⟩) ∧
    ∃ output memory,
      (Engine.mk BitModel.backend (some ".") .functional).run sixIntegersConverter
          Tensor.sixIntegers .cosimulation ⟨Tensor.builtFiles, none⟩ =
        (.ok output, ⟨Tensor.builtFiles, memory⟩) ∧
      output.sameNumbers Tensor.sixIntegers = true := by
  refine ⟨(run_modes_agree sixIntegersConverter _ sixIntegers_checked).1 _ _, ?_⟩
  obtain ⟨output, memory, success, _, _, _, same, _⟩ :=
    (run_modes_agree sixIntegersConverter _ sixIntegers_checked).2
      ⟨BitModel.backend, some ".", .functional⟩ ⟨Tensor.builtFiles, none⟩ "." rfl rfl
      Tensor.isFile_builtFiles (by decide)
  exact ⟨output, memory, success, same⟩

/-- A simulation delivers legal elements exactly when every code that comes back has a value. Words
of the right count and width are never refused for their codes. -/
theorem run_cosimulation_allowed_iff (engine : Engine State) (converter : Converter)
    (tensor : Tensor) (world : World State) :
    (∀ output after, engine.run converter tensor .cosimulation world = (.ok output, after) →
      ∃ request words,
        simulationRequest engine.hardwareRoot world.files converter tensor = .ok request ∧
        engine.backend.simulate world request = (.ok words, after) ∧
        output.shape = converter.shape ∧ output.type = converter.type ∧
        output.data = (numbers converter.type.storageBits (ofWords words)).map
          converter.type.ofElementCode ∧
        (output.firstDisallowed = .ok none ↔
          ∀ code ∈ numbers converter.type.storageBits (ofWords words),
            converter.type.hasValue code = true) ∧
        (∀ next : Converter, next.shape = converter.shape → next.type = converter.type →
          (checkInput next output = .ok () ↔ output.firstDisallowed = .ok none)) ∧
        (converter.type.usesEveryCode = true → output.firstDisallowed = .ok none)) ∧
    ∀ request words after, checkInput converter tensor = .ok () →
      simulationRequest engine.hardwareRoot world.files converter tensor = .ok request →
      engine.backend.simulate world request = (.ok words, after) →
      converter.wordCount .output = .ok words.length →
      (∀ word ∈ words, word.width = converter.width .output) →
      ∃ output, engine.run converter tensor .cosimulation world = (.ok output, after) := by
  obtain ⟨_, folds, counted⟩ := converter.folds_wordCount .output
  constructor
  · intro output after success
    obtain ⟨_, request, words, requested, replied, unpacked⟩ :=
      (run_cosimulation_eq_ok_iff _ _ _ _ _ _).1 success
    obtain ⟨_, _, shape, type, decoded⟩ :=
      (Tensor.unpack_eq_ok_iff converter.short folds words output).1 unpacked
    have legal := Tensor.firstDisallowed_eq_none_iff_hasValue (type ▸ converter.supported)
      (by rw [type]; exact decoded)
    rw [type] at legal
    refine ⟨request, words, requested, replied, shape, type, decoded, legal, ?_, ?_⟩
    · intro next sameShape sameType
      rw [checkInput_eq_ok_iff, sameShape, sameType]
      exact ⟨fun accepted => accepted.2.2, fun allowed => ⟨shape, type, allowed⟩⟩
    · exact fun every => legal.2 fun code _ => ElementType.hasValue_of_usesEveryCode every code
  · intro request words after checked requested replied count uniform
    have enough := Except.ok.inj (counted.symm.trans count)
    obtain ⟨output, unpacked⟩ := Tensor.exists_unpack_eq_ok converter.short folds
      converter.countable words enough.symm uniform
    exact ⟨output, (run_cosimulation_eq_ok_iff _ _ _ _ _ _).2
      ⟨checked, request, words, requested, replied, unpacked⟩⟩

def ternaryConverter : Converter :=
  ⟨.single "dwc" "in" "out", ⟨⟨[1]⟩, 2, 2, .ternary, none, none, none, none⟩, rfl⟩

def ternaryZero : Tensor :=
  ⟨⟨[1]⟩, [.zero], .ternary, rfl⟩

def replyEngine : Engine Replies.State :=
  ⟨Replies.backend, some ".", .functional⟩

def replyWorld (code : Nat) : World Replies.State :=
  ⟨Tensor.builtFiles, [.ok [.ofNat 2 code]], none⟩

def ternaryRequest : SimulationRequest :=
  ⟨Path.artifact "." "dwc", toWords 2 ternaryZero.bits, 2, 2, 1⟩

theorem ternaryZero_checked : checkInput ternaryConverter ternaryZero = .ok () :=
  (checkInput_eq_ok_iff _ _).2 ⟨rfl, rfl, rfl⟩

theorem ternaryZero_requested :
    simulationRequest (some ".") Tensor.builtFiles ternaryConverter ternaryZero =
      .ok ternaryRequest :=
  simulationRequest_eq_ok ternaryZero_checked (locateHardware_eq_ok rfl Tensor.isFile_builtFiles) rfl

theorem run_cosimulation_allowed_iff_ternary :
    (∃ output after, replyEngine.run ternaryConverter ternaryZero .cosimulation (replyWorld 1) =
      (.ok output, after) ∧ output.firstDisallowed = .ok none) ∧
    ∃ output after, replyEngine.run ternaryConverter ternaryZero .cosimulation (replyWorld 2) =
      (.ok output, after) ∧ output.firstDisallowed ≠ .ok none := by
  have delivered (code : Nat) : ∃ output after,
      replyEngine.run ternaryConverter ternaryZero .cosimulation (replyWorld code) =
        (.ok output, after) ∧
      (output.firstDisallowed = .ok none ↔
        ∀ c ∈ numbers 2 (ofWords [.ofNat 2 code]), ElementType.ternary.hasValue c = true) := by
    obtain ⟨only, every⟩ :=
      run_cosimulation_allowed_iff replyEngine ternaryConverter ternaryZero (replyWorld code)
    obtain ⟨output, success⟩ := every ternaryRequest _ _ ternaryZero_checked ternaryZero_requested
      rfl rfl (by intro word member; rw [List.mem_singleton.1 member]; rfl)
    obtain ⟨_, words, _, replied, _, _, _, legal, _⟩ := only output _ success
    obtain rfl := Except.ok.inj (Prod.mk.inj replied).1
    exact ⟨output, _, success, legal⟩
  obtain ⟨one, _, oneDelivered, oneLegal⟩ := delivered 1
  obtain ⟨two, _, twoDelivered, twoLegal⟩ := delivered 2
  exact ⟨⟨one, _, oneDelivered, oneLegal.2 (by decide)⟩, two, _, twoDelivered,
    fun allowed => absurd (twoLegal.1 allowed) (by decide)⟩

/-- The code of two has no ternary value, and is delivered all the same. -/
theorem run_cosimulation_disallowed :
    ¬∀ (engine : Engine Replies.State) (converter : Converter) (tensor output : Tensor)
        (world after : World Replies.State),
      engine.run converter tensor .cosimulation world = (.ok output, after) →
      ∀ x ∈ output.data, output.type.accepts x = .ok true := by
  intro claim
  have folds : Shape.Folds ternaryConverter.shape (ternaryConverter.width .output)
      ternaryConverter.type.storageBits 1 :=
    ⟨by decide, by decide, by decide, rfl, by decide⟩
  have unpacked := (Tensor.unpack_eq_ok_iff ternaryConverter.short folds [.ofNat 2 2]
    ⟨⟨[1]⟩, [.ofInt (-2)], .ternary, rfl⟩).2 ⟨rfl, by decide, rfl, rfl, by decide⟩
  have success := (run_cosimulation_eq_ok_iff replyEngine ternaryConverter ternaryZero _
    (replyWorld 2) _).2
    ⟨ternaryZero_checked, ternaryRequest, [.ofNat 2 2], ternaryZero_requested, rfl, unpacked⟩
  have accepted := claim _ _ _ _ _ _ success (.ofInt (-2)) List.mem_cons_self
  have refused : ElementType.ternary.accepts (.ofInt (-2)) = .ok false := rfl
  rw [refused] at accepted
  simp at accepted

end Engine

end

end StreamWidth
