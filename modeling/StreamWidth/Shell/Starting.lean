import StreamWidth.Shell.Evaluation

/-!
Starting programs: what a new process has, shells on scripts of their own, and one program in the
place of another.
-/

namespace StreamWidth.Shell

def startDirectory (files : FileTree) (environment : List (String × String)) : String :=
  let known := (environment.find? (·.1 == "PWD")).map (·.2)
  let isRight (path : String) : Bool :=
    Path.isAbsolute path && (files.locate (decode path)).toOption == some files.workingDirectory
  (known.filter isRight).getD (Machine.pathText files.workingDirectory)

def startVariables (environment : List (String × String)) (directory : String) (parent : Nat) :
    Dictionary Variable :=
  let own : List (String × Variable) :=
    [("IFS", ⟨some " \t\n", false, false⟩), ("OPTIND", ⟨some "1", false, false⟩),
      ("PATH", ⟨some usualPlaces, false, false⟩), ("PS1", ⟨some "# ", false, false⟩),
      ("PS2", ⟨some "> ", false, false⟩),
      ("PS4", ⟨some "+ ", false, false⟩)]
  let given := environment.map fun (name, value) => (name, (⟨some value, true, false⟩ : Variable))
  let place : List (String × Variable) :=
    [("PWD", ⟨some directory, true, false⟩),
      ("PPID", ⟨some (toString parent), false, false⟩)]
  (own ++ (given.filter fun item => isName item.1 && item.1 != "IFS") ++ place).foldl
    (fun bindings (name, content) => bindings.insert name content) Dictionary.empty

def Process.start (name : String) (bindings : Dictionary Variable) (streams : List (Nat × Nat))
    (number : Nat) (ancestors : List Nat) (directory : String) : Process where
  name := name
  arguments := []
  bindings := bindings
  functions := []
  aliases := []
  options := []
  traps := []
  streams := streams
  status := 0
  line := 0
  builtin := none
  documents := []
  locals := []
  loopDepth := 0
  substituted := 0
  optionPlace := .first
  number := number
  isCopy := false
  ancestors := ancestors
  directory := directory
  latest := none
  children := []
  ignored := []
  limits := Limit.usual
  remembered := []

/-- Makes the process another one, of which only the environment and the streams are the same. -/
def renew (name : String) : Run Unit :=
  modify fun machine =>
    let process := machine.process
    let directory := startDirectory machine.files process.environment
    let bindings := startVariables process.environment directory process.number
    { machine with
      process :=
        { Process.start name bindings process.streams machine.nextNumber
            (process.number :: process.ancestors) directory with
          ignored := process.ignored ++ (process.traps.filter (·.2.isEmpty)).map (·.1)
          limits := process.limits }
      nextNumber := machine.nextNumber + 1 }

/-! Shells. -/

def startOptions : Nat → List String → Run (Bool × List String)
  | 0, arguments => return (false, arguments)
  | fuel + 1, arguments => do
      match arguments with
      | [] => return (false, [])
      | first :: rest =>
          match first.toList with
          | ['-'] | ['-', '-'] => return (false, rest)
          | ['-', 'o'] => do
              turnLongOption true (rest.head?.getD "")
              startOptions fuel (rest.drop 1)
          | '-' :: letters => do
              turnLetters true (letters.filter (· != 'c'))
              let (isScript, rest) ← startOptions fuel rest
              return (letters.contains 'c' || isScript, rest)
          | '+' :: letters => do
              turnLetters false letters
              startOptions fuel rest
          | _ => return (false, arguments)
where
  turnLongOption (on : Bool) (name : String) : Run Unit := do
    match optionNames.find? (·.1 == name) with
    | some (_, letter) => turn on letter
    | none => refuse ("Illegal option " ++ sign on ++ "o " ++ name)

def setName (name : String) : Run Unit :=
  modifyProcess fun process => { process with name }

def setArguments (arguments : List String) : Run Unit :=
  modifyProcess fun process => { process with arguments }

def scriptText (words : List String) : Run (Bool × String) := do
  let (isScript, rest) ← startOptions (words.length + 1) (words.drop 1)
  match isScript, rest with
  | true, [] => refuse "-c requires an argument"
  | true, text :: rest => do
      match rest with
      | name :: arguments => do
          setName name
          setArguments arguments
      | [] => pure ()
      return (false, text)
  | false, [] => fromInput
  | false, path :: arguments => do
      if ← isOn 's' then
        setArguments rest
        fromInput
      else
        match (← get).files.read (decode path) with
        | .ok content => do
            setName path
            setArguments arguments
            return (true, textOfBytes content)
        | .error .isDirectory => return (true, "")
        | .error error => refuse ("cannot open " ++ path ++ ": " ++ openingText "No such file" error)
where
  fromInput : Run (Bool × String) := do
    let text := (← unread 0).toOption.getD ""
    consume 0 text.length
    return (true, text)

def runShell (perform : Performer) (words : List String) : Run Unit := do
  renew (words.head?.getD "sh")
  untilEnd perform do
    let (isFile, text) ← scriptText words
    perform (.script false isFile text)

/-! Programs that start others. -/

def startFailure (error : FileError) : Nat :=
  match error with
  | .notFound | .notDirectory | .nameTooLong | .tooManyLinks => unknownStatus
  | _ => unknownStatus - 1

/-- Starts another program in the place of this one, which complains with a text if it cannot. -/
def startAnother (perform : Performer) (complaint : String → FileError → String)
    (words : List String) : Run Unit := do
  let places := (← lookUp "PATH").getD usualPlaces
  let name := words.head?.getD ""
  let files := (← get).files
  let found : Except FileError Started :=
    if name.isEmpty then .error .notFound else findProgram files places words
  match found with
  | .error .notProgram | .ok _ => perform (.program places words)
  | .error error => do
      writeError (complaint name error ++ "\n")
      setStatus (startFailure error)

end StreamWidth.Shell
