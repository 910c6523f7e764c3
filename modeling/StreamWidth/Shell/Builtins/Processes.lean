import StreamWidth.Shell.Builtins.Variables

/-!
Builtin commands about directories, signals and other processes.
-/

namespace StreamWidth.Shell

/-- A path with its dots done away with, from the directory that a process is in by its links. -/
def logicalPath (directory path : String) : String :=
  let start := if Path.isAbsolute path then [] else directory.splitOn "/"
  let names := (path.splitOn "/").foldl (fun names name =>
    if name.isEmpty || name == "." then names
    else if name == ".." then names.dropLast
    else names ++ [name]) (start.filter (!·.isEmpty))
  let isDouble (text : String) : Bool :=
    match text.toList with
    | '/' :: '/' :: '/' :: _ => false
    | '/' :: '/' :: _ => true
    | _ => false
  let root := if isDouble (if Path.isAbsolute path then path else directory) then "//" else "/"
  root ++ "/".intercalate names

def moveTo (physically : Bool) (path : String) : Run Bool := do
  let machine ← get
  let target := if physically then path else logicalPath machine.process.directory path
  match machine.files.locate (decode target), machine.files.find (decode target) with
  | .ok location, .ok (.directory _) => do
      let directory := if physically then Machine.pathText location else target
      assign "OLDPWD" machine.process.directory
      modify fun machine =>
        { machine with
          files := { machine.files with workingDirectory := location }
          process := { machine.process with directory } }
      changeVariable "OLDPWD" fun old => { old with exported := true }
      assign "PWD" directory
      changeVariable "PWD" fun old => { old with exported := true }
      return true
  | _, _ => return false

/-- The paths to try for a directory, with whether the one that is taken is to be shown. -/
def directoryPaths (path : String) : Run (List (String × Bool)) := do
  let isPlain :=
    match (path.splitOn "/").head? with
    | some "" => path.isEmpty
    | some "." | some ".." => false
    | _ => true
  if !isPlain then return [(path, false)]
  let path := if path.isEmpty then "." else path
  match ← lookUp "CDPATH" with
  | none => return [(path, false)]
  | some places =>
      let files := (← get).files
      let tried := (places.splitOn ":").map fun place =>
        if place.isEmpty then (path, false) else (place ++ "/" ++ path, true)
      return (tried.find? fun item => files.isDirectory (decode item.1)).toList ++ [(path, false)]

def followsLinks (letters : List Char) : Bool :=
  letters.getLast? != some 'P'

def changeDirectory : Builtin := fun arguments => do
  let (letters, rest) ←
    match arguments with
    | "-" :: _ => pure ([], arguments)
    | _ => options ['L', 'P'] arguments
  let (path, shown) ←
    match rest with
    | [] => do pure ((← lookUp "HOME").getD "", false)
    | "-" :: _ => do pure ((← lookUp "OLDPWD").getD "", true)
    | path :: _ => pure (path, false)
  for (tried, shownToo) in ← directoryPaths path do
    if ← moveTo (!followsLinks letters) tried then
      if shown || shownToo then return ← print ((← getProcess).directory ++ "\n")
      return 0
  refuse ("can't cd to " ++ path)

def printDirectory (physically : Bool) : Builtin := fun arguments => do
  let (letters, _) ← options ['L', 'P'] arguments
  let machine ← get
  if followsLinks letters && !(physically && letters.isEmpty) then
    print (machine.process.directory ++ "\n")
  else print (Machine.pathText machine.files.workingDirectory ++ "\n")

/-! Signals. -/

def parentOfAll : Nat :=
  4241

def listTraps : Run Nat := do
  let traps := (← getProcess).traps.mergeSort fun left right => left.1 ≤ right.1
  let lines := traps.map fun (signal, text) =>
    "trap -- " ++ quotedText text ++ " " ++ (signalName? signal).getD (toString signal) ++ "\n"
  print (String.join lines)

/-- Sets what is done for each condition, none to do what is usual. -/
def setTraps (action : Option String) : List String → Run Nat
  | [] => return 0
  | name :: rest => do
      match signalNumber? name with
      | none => do
          writeError ("trap: " ++ name ++ ": bad trap\n")
          return 1
      | some signal => do
          modifyProcess fun process =>
            let others := process.traps.filter (·.1 != signal)
            { process with
              traps := (action.map fun text => (signal, text) :: others).getD others }
          setTraps action rest

def trap : Builtin := fun arguments => do
  let arguments ←
    match arguments with
    | "-" :: _ => pure arguments
    | _ => do pure (← options [] arguments).2
  match arguments with
  | [] => listTraps
  | [name] => setTraps none [name]
  | "-" :: names => setTraps none names
  | action :: names => setTraps (some action) names

def killUsage : String :=
  "Usage: kill [-s sigspec | -signum | -sigspec] [pid | job]... or\nkill -l [exitstatus]"

def listSignals (arguments : List String) : Run Nat := do
  match arguments with
  | [] => print (String.join (("0" :: signalNames).map fun name => name ++ "\n"))
  | text :: _ => do
      let number ← smallNumber text
      let signal := if 128 < number then number - 128 else number
      match signalName? signal with
      | some name => print (name ++ "\n")
      | none => refuse ("invalid signal number or exit status: " ++ text)

def namedChild? (children : List Child) (name : List Char) : Option Nat :=
  match name with
  | [] | ['%'] | ['+'] => (children.head?).map (·.number)
  | ['-'] => (children[1]?).map (·.number)
  | digits => do
      let slot ← Text.number? 10 digits
      let child ← children.find? (·.slot == slot)
      return child.number

def processNumber (text : String) : Run Nat := do
  match text.toList with
  | '%' :: name =>
      match namedChild? (← getProcess).children name with
      | some number => return number
      | none => refuse ("No such job: " ++ text)
  | '-' :: digits => smallNumber (String.ofList digits)
  | _ => smallNumber text

def Companion.isCalled (number : Nat) (companion : Companion) : Bool :=
  companion.number == number || !companion.process.isCopy && companion.process.number == number

def Companion.afterSignal (signal : Nat) (companion : Companion) : Companion :=
  if companion.status.isSome || companion.process.ignores signal then companion
  else if (companion.process.trap? signal).isSome then
    { companion with signals := companion.signals ++ [signal] }
  else { companion with status := some (signalStatus signal), stopped := some signal }

def sendSignal (perform : Performer) (signal : Nat) : List String → Run Nat
  | [] => return 0
  | text :: rest => do
      let number ← processNumber text
      let process ← getProcess
      let send : Run Unit :=
        modify fun machine => { machine with sent := machine.sent ++ [(signal, number)] }
      if number = 0 then
        receive perform signal
        sendSignal perform signal rest
      else if number = process.number then
        if process.isCopy then send
        else
          setStatus 0
          receive perform signal
        sendSignal perform signal rest
      else if (← get).companions.any fun item => item.isCalled number && !item.isKnown then
        modify fun machine =>
          { machine with
            companions := machine.companions.map fun item =>
              if item.isCalled number then item.afterSignal signal else item }
        sendSignal perform signal rest
      else if process.ancestors.contains number && number != parentOfAll then
        send
        sendSignal perform signal rest
      else
        complain "No such process\n"
        let _ ← sendSignal perform signal rest
        return 1

def signalOrRefuse (text : String) : Run Nat := do
  match signalNumber? text with
  | some signal => return signal
  | none => refuse ("invalid signal number or name: " ++ text)

def terminate : Nat :=
  15

def kill (perform : Performer) : Builtin := fun arguments => do
  match arguments with
  | [] => refuse killUsage
  | "-l" :: rest => listSignals rest
  | ["-s"] => refuse "No arg for -s option"
  | "-s" :: name :: rest => do
      let signal ← signalOrRefuse name
      if rest.isEmpty then refuse killUsage else sendSignal perform signal rest
  | "--" :: rest => sendSignal perform terminate rest
  | first :: rest =>
      match first.toList with
      | '-' :: c :: name =>
          match signalNumber? (String.ofList (c :: name)) with
          | some signal => if rest.isEmpty then refuse killUsage else sendSignal perform signal rest
          | none => refuse ("Illegal option -" ++ String.singleton c)
      | _ => sendSignal perform terminate arguments

def unknownStatus : Nat :=
  127

/-- Waits, and answers with a status unless a signal has come in the meantime. -/
def waitUntil (perform : Performer) (patience : Patience) (status : Run Nat) : Run Nat := do
  modify fun machine => { machine with interruption := none }
  letOthers perform patience
  match (← get).interruption with
  | some signal => return signalStatus signal
  | none => status

def markWaited (isOne : Nat → Bool) : Run Unit := do
  learnEnds
  modify fun machine =>
    let isOver (number : Nat) : Bool :=
      (machine.companions.find? (·.number == number)).all (·.status.isSome)
    { machine with
      process :=
        { machine.process with
          children := machine.process.children.map fun child =>
            if isOne child.number && isOver child.number then { child with isWaited := true }
            else child } }

def waitForChild (perform : Performer) (number : Nat) : Run Nat :=
  waitUntil perform (.forProcess number) do
    match (← get).companions.find? (·.number == number) with
    | none => return unknownStatus
    | some found => do
        if !found.isKnown then
          match found.stopped.bind signalText? with
          | some text => writeError (text ++ "\n")
          | none => pure ()
        markWaited (· == number)
        return found.status.getD unknownStatus

def waitFor (perform : Performer) : Nat → List String → Run Nat
  | status, [] => return status
  | _, text :: rest => do
      let number ← processNumber text
      if (← getProcess).children.any (·.number == number) then
        waitFor perform (← waitForChild perform number) rest
      else waitFor perform unknownStatus rest

def wait (perform : Performer) : Builtin := fun arguments => do
  let (_, arguments) ← options [] arguments
  if arguments.isEmpty then
    if (← getProcess).children.isEmpty then return 0
    else
      waitUntil perform .forAll do
        markWaited fun _ => true
        return 0
  else waitFor perform 0 arguments

def changeMask : Builtin := fun arguments => do
  let (_, rest) ← options [] arguments
  match rest with
  | [] => do
      let digits := Nat.toDigits 8 (← get).files.mask
      print (String.ofList (List.replicate (4 - digits.length) '0' ++ digits) ++ "\n")
  | text :: _ =>
      match Text.number? 8 text.toList with
      | some mask => do
          modify fun machine =>
            { machine with files := { machine.files with mask := mask &&& 0o777 } }
          return 0
      | none => refuse ("Illegal number: " ++ text)

end StreamWidth.Shell
