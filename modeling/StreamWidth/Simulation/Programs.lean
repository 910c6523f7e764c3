import StreamWidth.Shell.Execution
import StreamWidth.Shell.Utilities
import StreamWidth.Simulation.Exchange

/-!
Running simulator programs: scripts in the tree of files and the programs that every system has.
-/

namespace StreamWidth.Programs

def hasNul (text : String) : Bool :=
  text.toList.contains '\x00'

def usualHome : String :=
  "/root"

def usualEnvironment : List (String × String) :=
  [("PATH", Shell.usualPlaces), ("HOME", usualHome)]

def firstNumber : Nat :=
  4242

def machine (files : FileTree) (environment : List (String × String)) : Shell.Machine where
  files := files
  opened := #[⟨.device .null, 0, false, true, false⟩, ⟨.buffer .empty, 0, true, false, true⟩,
    ⟨.buffer .empty, 0, true, false, true⟩]
  process :=
    let directory := Shell.startDirectory files environment
    Shell.Process.start "sh" (Shell.startVariables environment directory Shell.parentOfAll)
      [(0, 0), (1, 1), (2, 2)] Shell.parentOfAll [] directory
  nextNumber := firstNumber
  clock := 0
  deadlines := []
  companions := []
  interruption := none
  sent := []

def errorsOf (machine : Shell.Machine) : ByteArray :=
  let errors : Option Shell.Stream := machine.opened[2]?
  match errors with
  | some ⟨.buffer content, _, _, _, _⟩ => content
  | _ => .empty

/-- Runs a program to its end. Those that it has left in the background may still write. -/
def runToEnd (started : Shell.Started) : Shell.Run (Option Nat) := do
  let perform := Shell.performer Shell.utility? Shell.depthLimit
  let status ←
    try
      Shell.runProgram perform Shell.utility? started
      pure (some (← Shell.getProcess).status)
    catch
      | .killed _ _ | .exhausted => pure none
      | _ => pure (some (← Shell.getProcess).status)
  Shell.modifyProcess Shell.Process.copied
  Shell.letOthers perform (.forStream 1)
  Shell.letOthers perform (.forStream 2)
  return status

def run (files : FileTree) (environment : List (String × String)) (started : Shell.Started) :
    Ending :=
  let (outcome, final) := (runToEnd started).run (machine files environment)
  let status := (outcome.toOption.join).map (· % Shell.statusRange)
  let files := { final.files with workingDirectory := files.workingDirectory }
  ⟨status, errorsOf final, files⟩

def find (files : FileTree) (words : List String) : Except FileError Shell.Started :=
  match words.head?.getD "" with
  | "" => .error .notFound
  | "." | ".." => .error .accessDenied
  | name =>
      if FileTree.nameLimit < name.length && !Shell.isPath name then .error .nameTooLong
      else Shell.findProgram files Shell.usualPlaces words

/-- How long an argument may be, in bytes and with the zero byte behind it. -/
def argumentLimit : Nat :=
  131072

def launch (environment : List (String × String)) : Launcher := fun files invocation => do
  let words := invocation.program :: invocation.arguments
  if words.any hasNul then throw .nulInArgument
  if words.any fun word => argumentLimit ≤ word.utf8ByteSize then throw .argumentsTooLong
  let encoded := environment.map fun (name, value) => (name, Shell.encode value)
  return run files (usualEnvironment ++ encoded) (← find files (words.map Shell.encode))

end StreamWidth.Programs
