import StreamWidth.Converter.Diagnostics
import StreamWidth.Converter.Hls
import StreamWidth.Engine
import StreamWidth.NodeDescription
import StreamWidth.Settings.Document
import StreamWidth.Settings.Sources
import StreamWidth.Simulation.BitModel
import StreamWidth.Simulation.Exchange

/-!
The command line: it shows what a node description says, and runs the converter on its test input.
-/

namespace StreamWidth.CommandLine

inductive Problem
  | missingMode
  | unknownOption (text : String)
  | failure (cause : Failure)
  | executing (node : String) (cause : Failure)
  | missingOutput (name : String)
  deriving DecidableEq

def indented (text : String) : String :=
  "    " ++ text.replace "\n" "\n    "

def Problem.message : Problem → String
  | missingMode => "--mode needs a value"
  | unknownOption text => "unknown option " ++ text
  | failure cause => cause.message
  | executing node cause =>
      "Executing " ++ node ++ "\n\nCaused by:\n" ++ indented cause.message
  | missingOutput name => "no output tensor " ++ name

def Problem.fault? : Problem → Option Fault
  | failure (.fault fault) | executing _ (.fault fault) => some fault
  | _ => none

structure Outcome where
  code : Nat
  standardOutput : String
  errorOutput : String

def problemCode : Nat :=
  1

def faultCode : Nat :=
  101

/-- What is printed so far stays printed when a problem is found. -/
abbrev Printing :=
  ExceptT Problem (StateM String)

def print (text : String) : Printing Unit :=
  modify (· ++ text)

def printLine (text : String) : Printing Unit :=
  print (text ++ "\n")

def attempt {α : Type} (result : Except Failure α) : Printing α :=
  match result with
  | .ok value => pure value
  | .error failure => throw (.failure failure)

structure Options where
  codegen : Bool
  mode : Option ExecutionMode
  path : Option String

def noOptions : Options :=
  ⟨false, none, none⟩

def parseOptions : List String → Options → Except Problem Options
  | [], options => .ok options
  | "--codegen" :: rest, options => parseOptions rest { options with codegen := true }
  | ["--mode"], _ => .error .missingMode
  | "--mode" :: tag :: rest, options =>
      match ExecutionMode.ofTag tag with
      | .ok mode => parseOptions rest { options with mode := some mode }
      | .error failure => .error (.failure failure)
  | argument :: rest, options =>
      if argument.startsWith "-" then .error (.unknownOption argument)
      else parseOptions rest { options with path := some argument }

def printUsage (environment : Environment) : Printing Unit := do
  printLine "Usage: dwc-bridge <node.toml> [--mode functional|cosim] [--codegen]"
  printLine "       dwc-bridge --sample-config"
  if let some path := Settings.userFile? environment then
    printLine ""
    printLine ("User config: " ++ path)

def padRight (width : Nat) (text : String) : String :=
  text ++ String.ofList (List.replicate (width - text.length) ' ')

def padLeft (width : Nat) (text : String) : String :=
  String.ofList (List.replicate (width - text.length) ' ') ++ text

def printHeading (title : String) : Printing Unit := do
  printLine ""
  printLine title
  printLine (String.ofList (List.replicate title.length '='))

def shownWidth (converter : Converter) (padding : Bool) (side : Side) : Nat :=
  if padding then converter.paddedWidth side else converter.width side

def printStream (converter : Converter) (padding : Bool) (label : String) (side : Side) :
    Printing Unit := do
  let folded ← attempt (converter.foldedShape side)
  let words ← attempt (converter.wordCount side)
  printLine ("  " ++ padRight 6 label ++ " stream:   " ++
    padLeft 4 (toString (shownWidth converter padding side)) ++ " bits  folded " ++ folded.text ++
    "  (" ++ toString words ++ " words)")

def printSummary (converter : Converter) (padding : Bool) : Printing Unit := do
  printLine ("Node: " ++ converter.name)
  printLine ("  Datatype:        " ++ converter.type.tag)
  printLine ("  Normal shape:    " ++ converter.shape.text)
  printStream converter padding "Input" .input
  printStream converter padding "Output" .output
  printLine ("  Words combined:  " ++ toString converter.wordsCombined)

def printAdvice (converter : Converter) : Printing Unit := do
  printHeading "Verification"
  for line in converter.advice do
    printLine ("  " ++ line)

def printFragments (converter : Converter) (settings : Settings) : Printing Unit := do
  let directory :=
    converter.attributes.functionalDirectory.getD settings.buildDirectoryOrDefault
  let fragments ← attempt (Hls.fragments converter directory)
  printHeading "Code fragments"
  for (marker, lines) in fragments.entries do
    printLine marker
    for line in lines do
      printLine ("    " ++ line)

def listing (data : List Binary32) : String :=
  "[" ++ String.intercalate ", " (data.map Binary32.listed) ++ "]"

def printExecution (input output : Tensor) : Printing Unit := do
  printHeading "Execution"
  printLine ("  Input:  " ++ listing input.data)
  printLine ("  Output: " ++ listing output.data)
  let same := (input.data.zip output.data).all fun pair => pair.1.sameNumber pair.2
  printLine ("  Identity: " ++
    if input.data.length == output.data.length && same then "yes" else "NO")

def runConverter {State : Type} (files : FileTree) (settings : Settings) (mode : Option ExecutionMode)
    (converter : Converter) (input : Tensor) (backend : Backend State) (state : State) :
    Printing Unit := do
  let engine ← attempt (Engine.ofSettings settings backend)
  let inputName ← attempt converter.inputName
  let outputName ← attempt converter.outputName
  let session : Session State := ⟨Dictionary.empty.insert inputName input, files, state⟩
  let (result, session) :=
    match mode with
    | some mode => engine.execute converter mode session
    | none => engine.executeDefault converter session
  if let .error failure := result then
    throw (.executing converter.name failure)
  match session.context.get? outputName with
  | some output => printExecution input output
  | none => throw (.missingOutput outputName)

structure Simulators where
  launch : Launcher
  stage : String

def runInput (files : FileTree) (simulators : Simulators) (settings : Settings)
    (mode : Option ExecutionMode) (converter : Converter) (input : Tensor) : Printing Unit :=
  match settings.simulator with
  | some program =>
      let exchange : Exchange := ⟨program, [], simulators.stage⟩
      runConverter files settings mode converter input (exchange.backend simulators.launch) ()
  | none => runConverter files settings mode converter input BitModel.backend none

def showNode (files : FileTree) (environment : Environment) (simulators : Simulators)
    (options : Options) (path : String) : Printing Unit := do
  let settings := Settings.load Settings.parse? files environment
  let description ← attempt (NodeDescription.ofFile files path)
  let converter ← attempt description.build
  printSummary converter settings.paddingOrDefault
  printAdvice converter
  if options.codegen then
    printFragments converter settings
  if let some input ← attempt (description.generateInput converter) then
    runInput files simulators settings options.mode converter input

def commands (files : FileTree) (environment : Environment) (simulators : Simulators)
    (arguments : List String) : Printing Unit := do
  if arguments.contains "--sample-config" then
    print Settings.sample
  else
    match parseOptions arguments noOptions with
    | .error problem => throw problem
    | .ok options =>
        match options.path with
        | none => printUsage environment
        | some path => showNode files environment simulators options path

def run (files : FileTree) (environment : Environment) (simulators : Simulators)
    (arguments : List String) : Outcome :=
  match (commands files environment simulators arguments).run.run "" with
  | (.ok (), printed) => ⟨0, printed, ""⟩
  | (.error problem, printed) =>
      match problem.fault? with
      | some fault => ⟨faultCode, printed, fault.message ++ "\n"⟩
      | none => ⟨problemCode, printed, "Error: " ++ problem.message ++ "\n"⟩

def consulted (files : FileTree) (environment : Environment) (arguments : List String) :
    List String :=
  let settings := Settings.load Settings.parse? files environment
  let path := (parseOptions arguments noOptions).toOption.bind (·.path)
  let converter := path.bind fun path => do
    (← (NodeDescription.ofFile files path).toOption).build.toOption
  let hardware := converter.map fun converter =>
    Path.artifact
      (converter.attributes.hardwareDirectory.getD settings.buildDirectoryOrDefault) converter.name
  [some Settings.projectFile, Settings.userFile? environment, Settings.packageFile? environment,
    path, hardware, settings.simulator].filterMap id

end StreamWidth.CommandLine
