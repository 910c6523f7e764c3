import StreamWidth.Shell.Starting
import StreamWidth.Shell.Utilities.Task

/-!
Programs that start another one in other surroundings: with other variables, or for a limited time.
-/

namespace StreamWidth.Shell

def setVariables (assignments : List (String × String)) : Run Unit := do
  for (name, value) in assignments do
    putVariable name ⟨some value, true, false⟩

def printEnvironment : Run Unit := do
  let lines := (← getProcess).environment.map fun (name, value) => name ++ "=" ++ value ++ "\n"
  let _ ← write 1 (String.join lines)

def blankWords (text : String) : List String :=
  (text.splitToList fun c => c == ' ' || c == '\t' || c == '\n').filter (!·.isEmpty)

def misuseStatus : Nat :=
  125

def runEnv (perform : Performer) (name : String) : Nat → List String → Run Unit
  | 0, _ => return
  | fuel + 1, arguments => do
      match arguments with
      | [] => do
          setStatus 0
          printEnvironment
      | "-i" :: rest | "-" :: rest | "--ignore-environment" :: rest => do
          modifyProcess fun process => { process with bindings := Dictionary.empty }
          runEnv perform name fuel rest
      | "-u" :: variableName :: rest => do
          unsetVariable variableName
          runEnv perform name fuel rest
      | "-C" :: directory :: rest => do
          if ← enter directory then runEnv perform name fuel rest
      | "-S" :: text :: rest => runEnv perform name fuel (blankWords text ++ rest)
      | "--" :: rest => runEnv perform name fuel rest
      | first :: rest =>
          match first.toList, splitAssignment first with
          | '-' :: 'S' :: text, _ => runEnv perform name fuel (blankWords (String.ofList text) ++ rest)
          | '-' :: 'u' :: variableName, _ => do
              unsetVariable (String.ofList variableName)
              runEnv perform name fuel rest
          | _, ("--unset", some variableName) => do
              unsetVariable variableName
              runEnv perform name fuel rest
          | _, ("--chdir", some directory) => do
              if ← enter directory then runEnv perform name fuel rest
          | _, ("--split-string", some text) => runEnv perform name fuel (blankWords text ++ rest)
          | '-' :: '-' :: _, _ => misuse ("unrecognized option '" ++ first ++ "'")
          | '-' :: c :: _, _ => misuse ("invalid option -- '" ++ String.singleton c ++ "'")
          | _, (variableName, some value) => do
              setVariables [(variableName, value)]
              runEnv perform name fuel rest
          | _, (_, none) => do
              startAnother perform
                (fun program error => name ++ ": " ++ inMarks program ++ ": " ++ error.text ++
                  (if program.toList.contains ' ' then
                    "\n" ++ name ++ ": use -[v]S to pass options in shebang lines"
                  else ""))
                arguments
where
  misuse (text : String) : Run Unit := do
    writeError (name ++ ": " ++ text ++ "\nTry '" ++ name ++ " --help' for more information.\n")
    setStatus misuseStatus
  enter (directory : String) : Run Bool := do
    let files := (← get).files
    match files.locate (decode directory), files.find (decode directory) with
    | .ok location, .ok (.directory _) => do
        modify fun machine =>
          { machine with files := { machine.files with workingDirectory := location } }
        return true
    | .error error, _ | _, .error error => do
        writeError (name ++ ": cannot change directory to " ++ inMarks directory ++ ": " ++
          error.text ++ "\n")
        setStatus misuseStatus
        return false
    | _, _ => do
        writeError (name ++ ": cannot change directory to " ++ inMarks directory ++
          ": Not a directory\n")
        setStatus misuseStatus
        return false

def runBehind (perform : Performer) (name : String) (words : List String) : Run Unit := do
  startAnother perform
    (fun program error => name ++ ": failed to run command " ++ inMarks program ++ ": " ++ error.text)
    words

def misuseProgram (name text : String) : Run Unit := do
  writeError (name ++ ": " ++ text ++ "\nTry '" ++ name ++ " --help' for more information.\n")
  setStatus misuseStatus

/-! Limited time. -/

def lateStatus : Nat :=
  124

def preserving : Char :=
  '\x01'

def timeoutTable : OptionTable where
  flags := ['\x00', preserving, 'v']
  valued := ['k', 's']
  names := [("foreground", '\x00'), ("preserve-status", preserving), ("verbose", 'v'),
    ("kill-after", 'k'), ("signal", 's')]

def killSignal : Nat :=
  9

/-- Runs something for a limited time, after which a signal comes and, if it is still there later, one
that nothing holds off. The answer is the signals that have come, and whether the last of them stopped
it. -/
def withDeadline (time signal : Nat) (more : Option Nat) (action : Run Nat) :
    Run (List Nat × Bool) := do
  let machine ← get
  let number := machine.nextNumber
  let first : Deadline := ⟨machine.clock + time, signal, number, false⟩
  let second := more.map fun more => (⟨first.time + more, killSignal, number, false⟩ : Deadline)
  set { machine with
    nextNumber := number + 1, deadlines := first :: second.toList ++ machine.deadlines }
  let finish : Run (List Nat) := do
    let machine ← get
    let (own, others) := machine.deadlines.partition (·.number == number)
    set { machine with deadlines := others }
    return (own.filter (·.isPast)).map (·.signal)
  try
    setStatus (← action)
    return (← finish, false)
  catch
    | .killed signal group => do
        let signals ← finish
        if group == some number then return (signals, true) else throw (.killed signal group)
    | .exhausted => do
        let _ ← finish
        return ([signal], true)
    | other => throw other

def runTimed (perform : Performer) (name : String) (arguments : Arguments) (time signal : Nat)
    (more : Option Nat) : Run Unit := do
  let run : Run Nat := isolated perform false (runBehind perform name (arguments.operands.drop 1))
  if time = 0 then setStatus (← run)
  else
    let (signals, isStopped) ← withDeadline time signal more run
    if arguments.has 'v' then
      for signal in signals do
        writeError (name ++ ": sending signal " ++ (signalName? signal).getD "" ++ " to command " ++
          inMarks (arguments.operands[1]?.getD "") ++ "\n")
    match signals.getLast? with
    | none => return
    | some signal => do
        if isStopped && signal = killSignal then throw (.killed signal none)
        if !arguments.has preserving then setStatus lateStatus
        else if isStopped then setStatus (signalStatus signal)

def runTimeout (perform : Performer) (name : String) (words : List String) : Run Unit := do
  match timeoutTable.readWords true words with
  | .error text => misuseProgram name text
  | .ok arguments =>
    match arguments.operands with
    | [] | [_] => do
        writeError ("Try '" ++ name ++ " --help' for more information.\n")
        setStatus misuseStatus
    | text :: _ => do
        let signalText := (arguments.value? 's').getD "TERM"
        let bare :=
          if signalText.toList.take 3 == ['S', 'I', 'G'] then String.ofList (signalText.toList.drop 3)
          else signalText
        match signalNumber? bare, Duration.read? text,
            Duration.read? ((arguments.value? 'k').getD "0") with
        | none, _, _ => misuseProgram name (inMarks signalText ++ ": invalid signal")
        | _, none, _ => misuseProgram name ("invalid time interval " ++ inMarks text)
        | _, _, none =>
            misuseProgram name ("invalid time interval " ++ inMarks ((arguments.value? 'k').getD ""))
        | some signal, some time, some more =>
            runTimed perform name arguments time signal (if more = 0 then none else some more)

end StreamWidth.Shell
