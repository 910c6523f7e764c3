import StreamWidth.Simulation.Backend
import StreamWidth.Text.Lines
import StreamWidth.Text.Utf8
import StreamWidth.Word.Hex

/-!
Simulation by another program. Words are exchanged as text files with one hexadecimal word a line,
in a staging directory that lives as long as the run.
-/

namespace StreamWidth

structure Invocation where
  program : String
  arguments : List String
  deriving DecidableEq

/-- What is left of a program that has ended; one without a status was stopped by a signal. -/
structure Ending where
  status : Option Nat
  errors : ByteArray
  files : FileTree

/-- Runs a program, or tells why it cannot be started. -/
abbrev Launcher :=
  FileTree → Invocation → Except FileError Ending

structure Exchange where
  program : String
  arguments : List String
  stage : String

namespace Exchange

def artifactStatus : Nat :=
  66

def inputFile (exchange : Exchange) : String :=
  Path.join exchange.stage "input.hex"

def outputFile (exchange : Exchange) : String :=
  Path.join exchange.stage "output.hex"

def inputText (words : List Word) : String :=
  Text.unlines (words.map Word.hexText)

def invocation (exchange : Exchange) (request : SimulationRequest) : Invocation :=
  ⟨exchange.program, exchange.arguments ++ [
    "--top", request.artifact,
    "--in", exchange.inputFile,
    "--out", exchange.outputFile,
    "--in-width", toString request.inWidth,
    "--out-width", toString request.outWidth,
    "--words", toString request.expected]⟩

def wordLines (text : String) : List (List Char) :=
  ((Text.lines text.toList).map Text.trimChars).filter (!·.isEmpty)

def readLines (width : Nat) : Nat → List (List Char) → SimulationResult
  | _, [] => .ok []
  | number, line :: rest =>
      match Word.ofHex? width line with
      | none => .error (.failed (.outputLine number width (String.ofList line)))
      | some word => (readLines width (number + 1) rest).map (word :: ·)

def ioError {α : Type} (result : Except FileError α) : Except SimulationError α :=
  result.mapError fun failure => .io failure.message

/-- The words that the program left in the output file, if it ended well. -/
def outcome (exchange : Exchange) (request : SimulationRequest) (ending : Ending) :
    SimulationResult :=
  match ending.status with
  | some 0 => do
      let text ← ioError (ending.files.readText exchange.outputFile)
      readLines request.outWidth 1 (wordLines text)
  | status =>
      if status = some artifactStatus then .error (.artifactMissing request.artifact)
      else
        let errors := Text.trimChars (Text.decodeLossy ending.errors.toList)
        .error (.failed (.exited exchange.program status (String.ofList errors)))

def prepare (exchange : Exchange) (files : FileTree) (words : List Word) :
    Except SimulationError FileTree := do
  let files ← ioError (files.makeDirectories exchange.stage)
  ioError (files.write exchange.inputFile (inputText words).toUTF8)

def cleanUp (exchange : Exchange) (files : FileTree) : FileTree :=
  (files.removeDirectory exchange.stage).toOption.getD files

def exchangeFiles (exchange : Exchange) (launch : Launcher) (staged : FileTree)
    (request : SimulationRequest) : SimulationResult × World Unit :=
  match launch staged (exchange.invocation request) with
  | .error failure => (.error (.io failure.message), ⟨exchange.cleanUp staged, ()⟩)
  | .ok ending => (exchange.outcome request ending, ⟨exchange.cleanUp ending.files, ()⟩)

def run (exchange : Exchange) (launch : Launcher) (world : World Unit)
    (request : SimulationRequest) : SimulationResult × World Unit :=
  if world.files.isFile request.artifact then
    match exchange.prepare world.files request.words with
    | .error failure => (.error failure, world)
    | .ok staged => exchange.exchangeFiles launch staged request
  else (.error (.artifactMissing request.artifact), world)

def backend (exchange : Exchange) (launch : Launcher) : Backend Unit where
  name := "command"
  simulate := exchange.run launch

end Exchange

end StreamWidth
