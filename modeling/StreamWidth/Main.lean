import StreamWidth.CommandLine
import StreamWidth.Simulation.Programs

/-!
The program itself: it gathers the files that the command line asks for, runs it and prints.
-/

open StreamWidth

def loadFile (files : FileTree) (path : String) : IO FileTree := do
  try
    let content ← IO.FS.readBinFile path
    return (files.install path content true).toOption.getD files
  catch
    | .inappropriateType .. => return (files.makeDirectories path).toOption.getD files
    | _ => return files

def loadFiles (environment : Environment) (arguments : List String) : Nat → FileTree → IO FileTree
  | 0, files => return files
  | rounds + 1, files => do
      let files ← (CommandLine.consulted files environment arguments).foldlM loadFile files
      loadFiles environment arguments rounds files

def configDirectory : IO (Option String) := do
  match ← IO.getEnv "XDG_CONFIG_HOME" with
  | some directory =>
      if Path.isAbsolute directory then return some directory
  | none => pure ()
  return (← IO.getEnv "HOME").map fun home => Path.join home ".config"

def variableNames : List String :=
  ["DWC_BUILD_DIR", "DWC_EXEC_MODE", "DWC_SIMULATOR", "CARGO_MANIFEST_DIR"]

def readEnvironment : IO Environment := do
  let entries ← variableNames.filterMapM fun name => do
    return (← IO.getEnv name).map fun value => (name, value)
  return ⟨entries, ← configDirectory⟩

def loadRounds : Nat :=
  3

def main (arguments : List String) : IO UInt32 := do
  let environment ← readEnvironment
  let files ← loadFiles environment arguments loadRounds (FileTree.fresh "work")
  let outcome :=
    CommandLine.run files environment ⟨Programs.launch environment.entries, "/tmp/dwc_cosim_4241_0"⟩ arguments
  IO.print outcome.standardOutput
  IO.eprint outcome.errorOutput
  return outcome.code.toUInt32
