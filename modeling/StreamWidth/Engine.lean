import StreamWidth.Converter
import StreamWidth.Packing
import StreamWidth.Settings
import StreamWidth.Simulation.Backend

/-!
Evaluation of converters. A run asks the backend at most once, after everything that can be checked
beforehand; a session changes only by the tensor that a successful run delivers, and by what the
backend does to its world.
-/

namespace StreamWidth

abbrev Context :=
  Dictionary Tensor

structure Engine (State : Type) where
  backend : Backend State
  hardwareRoot : Option String
  defaultMode : ExecutionMode

structure Session (State : Type) where
  context : Context
  world : World State

/-- A tensor must have the shape and the type of the converter, and values of that type. -/
def checkInput (converter : Converter) (tensor : Tensor) : Except Failure Unit := do
  if tensor.shape ≠ converter.shape then
    throw (.validation (.inputShape tensor.shape converter.shape))
  if tensor.type ≠ converter.type then
    throw (.validation (.inputType tensor.type converter.type))
  if let some (index, value) ← tensor.firstDisallowed then
    throw (.validation (.inputValue value index tensor.type))

def checkOutput (converter : Converter) (tensor : Tensor) : Except Failure Tensor :=
  if tensor.shape ≠ converter.shape then
    .error (.shapeMismatch (.shapes converter.shape tensor.shape))
  else if tensor.type ≠ converter.type then
    .error (.shapeMismatch (.types converter.type tensor.type))
  else .ok tensor

def evaluateFunctionally (converter : Converter) (tensor : Tensor) : Except Failure Tensor := do
  let stored := tensor.map converter.type.storage converter.type.encode
  let folded ← stored.reshape (← converter.foldedShape .input)
  let unfolded ← folded.reshape converter.shape
  return unfolded.map converter.type converter.type.decode

/-- The generated hardware of a converter, which must be a file. -/
def locateHardware (root : Option String) (files : FileTree) (converter : Converter) :
    Except Failure String :=
  match converter.attributes.hardwareDirectory <|> root with
  | none => .error (.missingArtifact (Path.artifact "" converter.name))
  | some root =>
      let artifact := Path.artifact root converter.name
      if files.isFile artifact then .ok artifact else .error (.missingArtifact artifact)

def simulationRequest (root : Option String) (files : FileTree) (converter : Converter)
    (tensor : Tensor) : Except Failure SimulationRequest := do
  let artifact ← locateHardware root files converter
  let words ← tensor.pack (converter.width .input)
  let expected ← converter.wordCount .output
  return ⟨artifact, words, converter.width .input, converter.width .output, expected⟩

def receive (converter : Converter) : SimulationResult → Except Failure Tensor
  | .error failure => .error (.ofSimulation failure)
  | .ok words => Tensor.unpack words converter.type (converter.width .output) converter.shape

namespace Engine

variable {State : Type}

def new (backend : Backend State) : Engine State :=
  ⟨backend, none, .functional⟩

def ofSettings (settings : Settings) (backend : Backend State) : Except Failure (Engine State) := do
  return ⟨backend, some settings.buildDirectoryOrDefault, ← settings.mode⟩

def evaluate (engine : Engine State) (converter : Converter) (tensor : Tensor)
    (mode : ExecutionMode) (world : World State) : Except Failure Tensor × World State :=
  match mode with
  | .functional => (evaluateFunctionally converter tensor, world)
  | .cosimulation =>
      match simulationRequest engine.hardwareRoot world.files converter tensor with
      | .error failure => (.error failure, world)
      | .ok request =>
          let (result, world) := engine.backend.simulate world request
          (receive converter result, world)

def run (engine : Engine State) (converter : Converter) (tensor : Tensor) (mode : ExecutionMode)
    (world : World State) : Except Failure Tensor × World State :=
  match checkInput converter tensor with
  | .error failure => (.error failure, world)
  | .ok () =>
      let (result, world) := engine.evaluate converter tensor mode world
      (result.bind (checkOutput converter), world)

def operands (converter : Converter) (context : Context) : Except Failure (Tensor × String) := do
  let inputName ← converter.inputName
  let outputName ← converter.outputName
  match context.get? inputName with
  | some tensor => return (tensor, outputName)
  | none => throw (.validation (.missingTensor inputName converter.name))

/-- Runs a converter on the tensor of its input name and keeps the result under its output name. -/
def execute (engine : Engine State) (converter : Converter) (mode : ExecutionMode)
    (session : Session State) : Except Failure Unit × Session State :=
  match operands converter session.context with
  | .error failure => (.error failure, session)
  | .ok (tensor, outputName) =>
      match engine.run converter tensor mode session.world with
      | (.error failure, world) => (.error failure, ⟨session.context, world⟩)
      | (.ok result, world) => (.ok (), ⟨session.context.insert outputName result, world⟩)

def modeFor (engine : Engine State) (converter : Converter) : Except Failure ExecutionMode :=
  match converter.attributes.executionMode with
  | some tag => ExecutionMode.ofTag tag
  | none => .ok engine.defaultMode

def executeDefault (engine : Engine State) (converter : Converter) (session : Session State) :
    Except Failure Unit × Session State :=
  match engine.modeFor converter with
  | .error failure => (.error failure, session)
  | .ok mode => engine.execute converter mode session

end Engine

end StreamWidth
