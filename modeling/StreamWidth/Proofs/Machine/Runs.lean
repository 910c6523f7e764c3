import StreamWidth.Converter.Hls
import StreamWidth.Proofs.Acceptance
import StreamWidth.Proofs.Histories
import StreamWidth.Proofs.Machine.Streams

/-!
Converters in machine integers. No query of a converter stops the machine, and no run does whose
bits can be counted.
-/

namespace StreamWidth.Machine

def roundUp (value multiple : Nat) : Except Stop (Option Nat) :=
  if multiple = 0 then .ok (some value)
  else do
    let whole ← div value multiple
    let rest ← rem value multiple
    let count ← if rest = 0 then .ok whole else add 32 whole 1
    return if count * multiple < Width.limit then some (count * multiple) else none

def foldedShape (attributes : Attributes) (side : Side) : Except Stop Shape := do
  checkRelation attributes.inWidth attributes.outWidth
  fold attributes.shape (attributes.width side) attributes.type.storageBits

def wordCount (converter : Converter) (side : Side) : Except Stop Nat :=
  (foldedShape converter.attributes side).map Shape.outerCount

def streamWidth (converter : Converter) (side : Side) (padded : Bool) : Except Stop Nat :=
  if padded then
    (roundUp (converter.width side) Attributes.byteBits).map (·.getD (converter.width side))
  else .ok (converter.width side)

def wordsCombined (converter : Converter) : Except Stop Nat :=
  if converter.width .input < converter.width .output then
    div (converter.width .output) (converter.width .input)
  else .ok 1

def fragments (converter : Converter) (directory : String) :
    Except Stop (Dictionary (List String)) := do
  let folded ← foldedShape converter.attributes .output
  let combined ← wordsCombined converter
  let parameters : KernelParameters := {
    name := converter.name
    inWidth := converter.width .input
    outWidth := converter.width .output
    wordsCombined := combined
    element := converter.type.storage
    outputDims := folded.dims }
  return Dictionary.ofList (Hls.fragmentList parameters directory)

theorem roundUp_eq_divideUp (value : Nat) {multiple : Nat} (positive : 0 < multiple) :
    roundUp value multiple = (divideUp value multiple).map fun count =>
      if count * multiple < Width.limit then some (count * multiple) else none := by
  have nonzero := Nat.ne_of_gt positive
  rw [roundUp, if_neg nonzero, divideUp, div, rem, trapUnless_of nonzero, trapUnless_of nonzero]
  simp only [bind, Except.bind]
  split
  · rfl
  · cases add 32 (value / multiple) 1 <;> rfl

theorem roundUp_eq_ok {value : Nat} (small : value < 2 ^ 32) (multiple : Nat) :
    roundUp value multiple = .ok (Width.roundUp? value multiple) := by
  rcases Nat.eq_zero_or_pos multiple with none | positive
  · rw [roundUp, Width.roundUp?, if_pos none, if_pos none]
  · rw [roundUp_eq_divideUp value positive, divideUp_eq_ok small positive, Width.roundUp?,
      if_neg (Nat.ne_of_gt positive)]
    rfl

section

variable (converter : Converter)

theorem width_lt (side : Side) : converter.width side < 2 ^ 32 := by
  have bound : converter.width side ≤ 2 ^ 32 - 8 :=
    (Attributes.check_eq_ok_iff_legal.1 converter.accepted).width_le side
  omega

theorem foldedShape_eq_settled (side : Side) :
    foldedShape converter.attributes side = settled (converter.foldedShape side) := by
  rw [foldedShape, Converter.foldedShape, Attributes.foldedShape, settled_bind,
    checkRelation_eq_settled, fold_eq_settled]

theorem wordCount_eq_settled (side : Side) :
    wordCount converter side = settled (converter.wordCount side) := by
  rw [wordCount, Converter.wordCount, foldedShape_eq_settled]
  cases converter.foldedShape side <;> rfl

theorem streamWidth_padded (side : Side) :
    streamWidth converter side true = .ok (converter.paddedWidth side) := by
  rw [streamWidth, if_pos rfl, roundUp_eq_ok (width_lt converter side)]
  rfl

theorem wordsCombined_eq_ok : wordsCombined converter = .ok converter.wordsCombined := by
  have nonzero : converter.width .input ≠ 0 := Nat.ne_of_gt
    ((Attributes.check_eq_ok_iff_legal.1 converter.accepted).width_positive .input)
  rw [wordsCombined, Converter.wordsCombined]
  split
  · exact trapUnless_of nonzero _ _
  · rfl

theorem fragments_eq_settled (directory : String) :
    fragments converter directory = settled (Hls.fragments converter directory) := by
  rw [fragments, Hls.fragments, Converter.kernelParameters, foldedShape_eq_settled,
    wordsCombined_eq_ok]
  cases converter.foldedShape .output <;> rfl

end

def checkInput (converter : Converter) (tensor : Tensor) : Except Stop Unit := do
  if tensor.shape ≠ converter.shape then
    .error (.failure (.validation (.inputShape tensor.shape converter.shape)))
  else if tensor.type ≠ converter.type then
    .error (.failure (.validation (.inputType tensor.type converter.type)))
  else
    match ← firstRefused tensor.type 0 tensor.data with
    | some (index, value) =>
        .error (.failure (.validation (.inputValue value index tensor.type)))
    | none => return ()

def evaluateFunctionally (converter : Converter) (tensor : Tensor) : Except Stop Tensor := do
  let stored := tensor.map converter.type.storage converter.type.encode
  let folded ← settled (stored.reshape (← foldedShape converter.attributes .input))
  let unfolded ← settled (folded.reshape converter.shape)
  return unfolded.map converter.type converter.type.decode

def simulate (files : FileTree) (artifact : String) (words : List Cells) (inWidth outWidth : Nat) :
    Except Stop (List Cells) :=
  if files.isFile artifact then convert words inWidth outWidth
  else halt (.artifactMissing artifact)

def evaluateInHardware (root : Option String) (files : FileTree) (converter : Converter)
    (tensor : Tensor) : Except Stop Tensor := do
  let artifact ← settled (locateHardware root files converter)
  let input ← pack tensor (converter.width .input)
  let _ ← wordCount converter .output
  let output ← simulate files artifact input (converter.width .input) (converter.width .output)
  unpack output converter.type (converter.width .output) converter.shape

def run (root : Option String) (files : FileTree) (converter : Converter) (tensor : Tensor)
    (mode : ExecutionMode) : Except Stop Tensor := do
  checkInput converter tensor
  let output ←
    match mode with
    | .functional => evaluateFunctionally converter tensor
    | .cosimulation => evaluateInHardware root files converter tensor
  settled (checkOutput converter output)

theorem checkInput_eq_settled (converter : Converter) (tensor : Tensor) :
    checkInput converter tensor = settled (StreamWidth.checkInput converter tensor) := by
  rw [checkInput, StreamWidth.checkInput]
  by_cases shape : tensor.shape = converter.shape
  · by_cases type : tensor.type = converter.type
    · have supported : tensor.type.isSupported = true := type ▸ converter.supported
      simp only [shape, type, ne_eq, not_true_eq_false, ↓reduceIte, bind, Except.bind,
        Tensor.firstDisallowed]
      rw [← type, firstRefused_eq_settled supported]
      cases Tensor.firstRefused tensor.type 0 tensor.data with
      | error failure => rfl
      | ok refused => cases refused <;> rfl
    · simp only [shape, type, ne_eq, not_true_eq_false, not_false_eq_true, ↓reduceIte]
      rfl
  · simp only [shape, ne_eq, not_false_eq_true, ↓reduceIte]
    rfl

theorem evaluateFunctionally_eq_settled (converter : Converter) (tensor : Tensor) :
    evaluateFunctionally converter tensor =
      settled (StreamWidth.evaluateFunctionally converter tensor) := by
  simp only [evaluateFunctionally, StreamWidth.evaluateFunctionally, foldedShape_eq_settled,
    settled_bind]
  rfl

section

variable {converter : Converter} {tensor : Tensor}

theorem evaluateInHardware_eq_ok (takes : converter.Takes tensor) {root : Option String}
    {files : FileTree} {artifact : String} (located : Located root files converter artifact)
    (few : tensor.data.length * tensor.type.storageBits < BitModel.bitLimit) :
    evaluateInHardware root files converter tensor = .ok tensor.received := by
  have checked := (converter.takes_iff tensor).1 takes
  have sendable := sendable_of_checkInput checked
  obtain ⟨_, inFolds⟩ := folds_of_checkInput checked .input
  obtain ⟨_, outFolds⟩ := folds_of_checkInput checked .output
  obtain ⟨_, _, counted⟩ := converter.folds_wordCount .output
  have supported : tensor.type.isSupported = true := takes.type ▸ converter.supported
  have small := width_lt converter
  have packed := pack_eq_ok supported (small .input) (sendable.pack_eq inFolds)
  have converted := convert_eq_ok (small .output)
    ((sendable.convert_eq inFolds outFolds artifact 0).trans (if_pos few))
  have unpacked := unpack_eq_ok supported (small .output) (sendable.unpack_eq outFolds)
  rw [takes.type, takes.shape] at unpacked
  have found := locateHardware_eq_ok_iff.2 located
  obtain ⟨_, _, _, present⟩ := located
  simp only [evaluateInHardware, found, settled_ok, packed, wordCount_eq_settled, counted, simulate,
    present, ↓reduceIte, converted, unpacked, bind, Except.bind]

theorem run_eq_settled {engine : Engine (Option BitModel.Statistics)}
    (model : engine.backend = BitModel.backend)
    (few : tensor.data.length * tensor.type.storageBits < BitModel.bitLimit) (mode : ExecutionMode)
    (world : World (Option BitModel.Statistics)) :
    run engine.hardwareRoot world.files converter tensor mode =
        settled (engine.run converter tensor mode world).1 ∧
      ∀ cause, (engine.run converter tensor mode world).1 ≠ .error (.fault cause) := by
  rcases checkInput_cases converter tensor with takes | ⟨refusal, _, refused⟩
  · have checked := (converter.takes_iff tensor).1 takes
    -- What comes out has the shape and the type of what went in.
    have passes {output : Tensor} (shape : output.shape = tensor.shape)
        (type : output.type = tensor.type) : checkOutput converter output = .ok output := by
      rw [checkOutput, if_neg (by simp [shape, takes.shape]), if_neg (by simp [type, takes.type])]
    cases mode with
    | functional =>
        rw [run, checkInput_eq_settled, checked, evaluateFunctionally_eq_settled,
          evaluateFunctionally_eq_ok checked, Engine.run_functional engine takes]
        simp [settled_ok, bind, Except.bind, passes]
    | cosimulation =>
        by_cases located : ∃ artifact, Located engine.hardwareRoot world.files converter artifact
        · obtain ⟨artifact, present⟩ := located
          have kept : checkOutput converter tensor.received = .ok tensor.received := passes rfl rfl
          rw [run, checkInput_eq_settled, checked, evaluateInHardware_eq_ok takes present few,
            Engine.run_fst_of_located model takes present, if_pos few]
          simp [settled_ok, bind, Except.bind, kept]
        · have absent := locateHardware_eq_error located
          rw [run, checkInput_eq_settled, checked, evaluateInHardware, absent]
          simp only [Engine.run, checked, Engine.evaluate, simulationRequest_eq_error located]
          exact ⟨rfl, fun cause same => Failure.noConfusion (Except.error.inj same)⟩
  · rw [run, checkInput_eq_settled, refused]
    simp only [Engine.run, refused]
    exact ⟨rfl, fun cause same => Failure.noConfusion (Except.error.inj same)⟩

end

/-- No query of a converter traps, and no run does in either mode whose bits can be counted: every
sum, product, shift, quotient, index and assertion on the way is in order, and what comes of them is
what the definitions without checks say. -/
theorem never_trapped (engine : Engine (Option BitModel.Statistics))
    (model : engine.backend = BitModel.backend) (converter : Converter) (tensor : Tensor)
    (few : tensor.shape.elementCount * tensor.type.storageBits < 2 ^ 64) :
    (∀ mode world,
      run engine.hardwareRoot world.files converter tensor mode =
        settled (engine.run converter tensor mode world).1 ∧
      (∀ cause, run engine.hardwareRoot world.files converter tensor mode ≠ .error (.trap cause)) ∧
      ∀ cause, (engine.run converter tensor mode world).1 ≠ .error (.fault cause)) ∧
    (∀ side,
      (∃ folded, foldedShape converter.attributes side = .ok folded ∧
        converter.foldedShape side = .ok folded) ∧
      (∃ count, wordCount converter side = .ok count ∧ converter.wordCount side = .ok count) ∧
      streamWidth converter side false = .ok (converter.width side) ∧
      streamWidth converter side true = .ok (converter.paddedWidth side)) ∧
    wordsCombined converter = .ok converter.wordsCombined ∧
    ∀ directory, ∃ lines, fragments converter directory = .ok lines ∧
      Hls.fragments converter directory = .ok lines := by
  refine ⟨fun mode world => ?_, fun side => ⟨?_, ?_, rfl, streamWidth_padded converter side⟩,
    wordsCombined_eq_ok converter, fun directory => ?_⟩
  · rw [← tensor.filled] at few
    obtain ⟨same, faultless⟩ := run_eq_settled model few mode world
    refine ⟨same, fun cause trapped => ?_, faultless⟩
    exact settled_ne_trap _ cause (same.symm.trans trapped)
  · obtain ⟨channels, _, folded⟩ := converter.folds side
    exact ⟨_, by rw [foldedShape_eq_settled, folded]; rfl, folded⟩
  · obtain ⟨channels, _, counted⟩ := converter.folds_wordCount side
    exact ⟨_, by rw [wordCount_eq_settled, counted]; rfl, counted⟩
  · obtain ⟨channels, _, folded⟩ := converter.folds .output
    have written : ∃ lines, Hls.fragments converter directory = .ok lines := by
      rw [Hls.fragments, Converter.kernelParameters, folded]
      exact ⟨_, rfl⟩
    obtain ⟨lines, success⟩ := written
    exact ⟨lines, by rw [fragments_eq_settled, success]; rfl, success⟩

theorem never_trapped_sixIntegers :
    run (some ".") Tensor.builtFiles Engine.sixIntegersConverter Tensor.sixIntegers .cosimulation =
      .ok Tensor.sixIntegers.received := by
  have takes := (Converter.takes_iff _ _).2 Engine.sixIntegers_checked
  have located : Located (some ".") Tensor.builtFiles Engine.sixIntegersConverter _ :=
    ⟨".", rfl, rfl, Tensor.isFile_builtFiles⟩
  let engine : Engine (Option BitModel.Statistics) := ⟨BitModel.backend, some ".", .functional⟩
  have delivered : (engine.run Engine.sixIntegersConverter Tensor.sixIntegers .cosimulation
      ⟨Tensor.builtFiles, none⟩).1 = .ok Tensor.sixIntegers.received :=
    (Engine.run_fst_of_located rfl takes located).trans (if_pos (by decide))
  have same := ((never_trapped engine rfl Engine.sixIntegersConverter Tensor.sixIntegers
    (by decide)).1 .cosimulation ⟨Tensor.builtFiles, none⟩).1
  exact same.trans (congrArg settled delivered)

end StreamWidth.Machine
