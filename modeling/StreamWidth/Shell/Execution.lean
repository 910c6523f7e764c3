import StreamWidth.Shell.Surroundings
import StreamWidth.Shell.Utilities.Names

/-!
Performing jobs: each program by its name, and whatever else a process is asked to do.
-/

namespace StreamWidth.Shell

/-! Utilities. -/

def writeFailure (name : String) (error : FileError) : String × Nat :=
  match name with
  | "sed" => ("couldn't flush stdout: " ++ error.text, 4)
  | "grep" => ("write error: " ++ error.text, 2)
  | "sort" => ("write failed: 'standard output': " ++ error.text, 2)
  | "cat" =>
      if error = .badStream then ("standard output: " ++ error.text, 1)
      else ("write error: " ++ error.text, 1)
  | _ => ("write error: " ++ error.text, 1)

def say (failure : Option FileError) : List Said → Run (Option FileError)
  | [] => return failure
  | .output text :: rest => do
      match ← writeTo 1 text with
      | .ok () => say failure rest
      | .error error => say (if text.isEmpty then failure else some error) rest
  | .complaint text :: rest => do
      writeError text
      say failure rest

/-- Writes to the streams of the process what a utility has written to their places among the files. -/
def passStreams (before after : FileTree) : List (Nat × Nat) → Run Unit
  | [] => return
  | (number, _) :: rest => do
      let location := Machine.streamDirectory ++ [toString number]
      match before.entry? location, after.entry? location with
      | some (.pipe old _), some (.pipe new _) => do
          let _ ← write number (textOfBytes (new.extract old.size new.size))
      | _, _ => pure ()
      passStreams before after rest

def drain (files : FileTree) : List String → Run Unit
  | [] => return
  | path :: rest => do
      match files.locate (decode path), files.find (decode path) with
      | .ok location, .ok (.pipe content mode) =>
          match Machine.streamNumber? location with
          | some 1 | some 2 => pure ()
          | some number => do
              let left := ((← unread number).toOption.getD "").length
              consume number (min left content.size)
          | none =>
              modify fun machine =>
                { machine with files := machine.files.put location (.pipe .empty mode) }
      | _, _ => pure ()
      drain files rest

/-- Runs a utility on what the process has. -/
def runUtility (perform : Performer) (utility : Utility) (words : List String) : Run Unit := do
  let readPaths := if readsOperands words then words.drop 1 else []
  for path in readPaths do
    waitForContent perform path
  let machine ← get
  let (input, inputFailure) : String × Option FileError :=
    match ← unread 0 with
    | .ok text => (text, none)
    | .error error => ("", some error)
  let name := words.head?.getD ""
  let files := machine.filesWithStreams
  let report := utility {
    name
    arguments := words.drop 1
    input
    inputFailure
    inputIsFile := (machine.stream? 0).any fun item => item.2.target matches .file _
    files
    environment := machine.process.environment
    clock := machine.clock }
  consume 0 (input.length - report.unread.length)
  modify fun machine => { machine with files := Machine.withoutStreams report.files }
  setStatus report.status
  passStreams files report.files machine.process.streams
  drain files readPaths
  match ← say none report.said with
  | none => return
  | some error => do
      let (text, status) := writeFailure name error
      writeError (name ++ ": " ++ text ++ "\n")
      setStatus status

def runAsProgram (builtin : Builtin) (words : List String) : Run Unit := do
  let name := words.head?.getD ""
  try runBuiltin name builtin (words.drop 1)
  catch
    | .refused => pure ()
    | other => throw other

def runProgram (perform : Performer) (utilities : String → Option Utility) (started : Started) :
    Run Unit := do
  let words := started.words
  let name := words.head?.getD ""
  let rest := words.drop 1
  match started.program with
  | "sh" | "dash" | "bash" => runShell perform words
  | "env" => runEnv perform name (rest.length + 100) rest
  | "sleep" => do
      runUtility perform sleepUtility words
      if (← getProcess).status = 0 then letTimePass perform ((Duration.sum? rest).getD 0)
  | "timeout" => runTimeout perform name rest
  | program =>
      match utilities program, regularBuiltin? perform program with
      | some utility, _ => runUtility perform utility words
      | none, some builtin =>
          runAsProgram (if program = "pwd" then printDirectory true else builtin) words
      | none, none => setStatus unknownStatus

def isBinary (content : List Char) : Bool :=
  let isShown (c : Char) : Bool :=
    ' ' ≤ c && c != '\x7f' || ('\t' ≤ c && c ≤ '\x0e') || c == '\x1b'
  ((content.take 128).takeWhile (· != '\n')).any (!isShown ·)

def startProgram (perform : Performer) (utilities : String → Option Utility)
    (places : String) (words : List String) : Run Unit := do
  let name := words.head?.getD ""
  let files := (← get).files
  match findProgram files places words with
  | .ok started => runProgram perform utilities started
  | .error .notProgram => do
      let path := (programPath files places name).toOption.getD name
      let content := (files.read (decode path)).toOption.getD .empty
      if isBinary (charsOfBytes content) then
        complain (name ++ ": " ++ FileError.notProgram.text)
        setStatus (startFailure .notProgram)
      else runShell perform ("/bin/sh" :: path :: words.drop 1)
  | .error error => do
      complain (name ++ ": " ++ openingText "not found" error)
      setStatus (if isPath name then startFailure error else unknownStatus)

def performJob (utilities : String → Option Utility) (perform : Performer) : Job → Run Unit
  | .commands tested commands => performAll perform tested commands
  | .script tested isFile text => performScript perform tested isFile text
  | .program places words => startProgram perform utilities places words
  | .others patience => waitForOthers perform patience turnLimit

/-- Performs jobs that lie in each other at most so deep. -/
def performer (utilities : String → Option Utility) : Nat → Performer
  | 0, _ => throw .exhausted
  | depth + 1, job => performJob utilities (performer utilities depth) job

def depthLimit : Nat :=
  20000

end StreamWidth.Shell
