import StreamWidth.Shell.Builtins.Limits
import StreamWidth.Shell.Builtins.Processes
import StreamWidth.Shell.Builtins.Reading
import StreamWidth.Shell.Installed
import StreamWidth.Shell.Redirections

/-!
Builtin commands that decide what is carried out next, and the table of all of them.
-/

namespace StreamWidth.Shell

def exitShell : Builtin := fun arguments => do
  match arguments with
  | [] => pure ()
  | text :: _ => setStatus ((← smallNumber text) % statusRange)
  throw .exit

def returnToCaller : Builtin := fun arguments => do
  match arguments with
  | [] => pure ()
  | text :: _ => setStatus (← smallNumber text)
  throw .giveBack

def leaveLoops (again : Bool) : Builtin := fun arguments => do
  let count ←
    match arguments with
    | [] => pure 1
    | text :: _ => do
        let count ← smallNumber text
        if count = 0 then refuse ("Illegal number: " ++ text) else pure count
  let depth := (← getProcess).loopDepth
  if depth = 0 then return 0 else throw (.loop (min count depth) again)

def evaluateText (perform : Performer) (tested : Bool) : Builtin := fun arguments => do
  perform (.script tested false (" ".intercalate arguments))
  return (← getProcess).status

def scriptPath (name : String) : Run String := do
  if isPath name then return name
  let places := ((← lookUp "PATH").getD "").splitOn ":"
  let files := (← get).files
  match places.find? fun place => files.isFile (decode (place ++ "/" ++ name)) with
  | some place => return place ++ "/" ++ name
  | none => refuse (name ++ ": not found")

def runHere (perform : Performer) : Builtin := fun arguments => do
  match arguments with
  | [] => return 0
  | name :: _ => do
      let path ← scriptPath name
      match (← get).files.read (decode path) with
      | .error .isDirectory => return 0
      | .error error => refuse ("cannot open " ++ path ++ ": " ++ openingText "No such file" error)
      | .ok content => do
          let builtin := (← getProcess).builtin
          modifyProcess fun process => { process with builtin := some path }
          try perform (.script false true (textOfBytes content))
          catch
            | .giveBack => pure ()
            | other => throw other
          modifyProcess fun process => { process with builtin }
          return (← getProcess).status

def become (perform : Performer) : Builtin := fun arguments => do
  let words :=
    match arguments with
    | "--" :: rest => rest
    | _ => arguments
  if words.isEmpty then return 0
  modifyProcess fun process => { process with traps := process.traps.filter (·.2.isEmpty) }
  perform (.program ((← lookUp "PATH").getD "") words)
  throw .exit

def regularNames : List String :=
  ["[", "alias", "cd", "command", "echo", "false", "getopts", "kill", "printf", "pwd", "read", "test",
    "true", "type", "ulimit", "umask", "unalias", "wait"]

/-- What a name would carry out. -/
inductive Meaning
  | keyword
  | otherName (text : String)
  | function
  | special
  | regular
  | program (path : String)
  | unknown

def meaning (name : String) : Run Meaning := do
  let process ← getProcess
  if reservedWords.contains name then return .keyword
  if let some (_, text) := process.aliases.find? (·.1 == name) then return .otherName text
  if specialNames.contains name then return .special
  if process.functions.any (·.1 == name) then return .function
  if regularNames.contains name then return .regular
  let files := (← get).files
  match programPath files ((← lookUp "PATH").getD "") name with
  | .ok path =>
      if files.pathExists (decode path) then return .program path else return .unknown
  | .error _ => return .unknown

def remember (name : String) : Run Unit := do
  let process ← getProcess
  if !isPath name && !process.remembered.contains name && ((← meaning name) matches .program _) then
    modifyProcess fun process => { process with remembered := process.remembered ++ [name] }

def describe (name : String) (inFull : Bool) : Run Nat := do
  let line (brief full : String) : Run Nat := print ((if inFull then name ++ full else brief) ++ "\n")
  match ← meaning name with
  | .keyword => line name " is a shell keyword"
  | .otherName text =>
      line ("alias " ++ name ++ "=" ++ quotedText text) (" is an alias for " ++ text)
  | .function => line name " is a shell function"
  | .special => line name " is a special shell builtin"
  | .regular => line name " is a shell builtin"
  | .program path => do
      let isKnown := (← getProcess).remembered.contains name
      remember name
      line path ((if isKnown then " is a tracked alias for " else " is ") ++ path)
  | .unknown => do
      if inFull then
        let _ ← print (name ++ ": not found\n")
      return unknownStatus

def describeAll : List String → Run Nat
  | [] => return 0
  | name :: rest => do
      let status ← describe name true
      let others ← describeAll rest
      return max status others

def describeCommand : Builtin := fun arguments => do
  match arguments with
  | "-v" :: name :: _ => describe name false
  | "-V" :: name :: _ => describe name true
  | _ => do
      let _ ← options ['p', 'v', 'V'] arguments
      return 0

def testCondition (words : List String) : Run Nat := do
  match conditionHolds (← get).filesWithStreams words with
  | .ok holds => return if holds then 0 else 1
  | .error text => refuse text

def testBrackets : Builtin := fun arguments => do
  if arguments.getLast? == some "]" then testCondition arguments.dropLast
  else refuse "missing ]"

def printFormatted : Builtin := fun arguments => do
  let (_, words) ← options [] arguments
  match words with
  | [] => refuse "usage: printf format [arg ...]"
  | format :: arguments => do
      let result := Printf.run format arguments
      for warning in result.warnings do
        complain warning
      match result.broken with
      | some text => do
          complain text
          let _ ← print result.output
          return brokenStatus
      | none => do
          let status ← print result.output
          return if result.warnings.isEmpty then status else 1

def specialBuiltin? (perform : Performer) (tested : Bool) (name : String) : Option Builtin :=
  match name with
  | "." => some (runHere perform)
  | ":" => some fun _ => return 0
  | "break" => some (leaveLoops false)
  | "continue" => some (leaveLoops true)
  | "eval" => some (evaluateText perform tested)
  | "exec" => some (become perform)
  | "exit" => some exitShell
  | "export" => some exportVariables
  | "local" => some localVariables
  | "readonly" => some protectVariables
  | "return" => some returnToCaller
  | "set" => some setBuiltin
  | "shift" => some shift
  | "trap" => some trap
  | "unset" => some unsetNames
  | _ => none

/-! Other names for commands. -/

def aliasLine (item : String × String) : String :=
  item.1 ++ "=" ++ quotedText item.2 ++ "\n"

def missingAlias (builtin name : String) : Run Nat := do
  writeError (builtin ++ ": " ++ name ++ " not found\n")
  return 1

def removeAlias (name : String) : Run Unit :=
  modifyProcess fun process => { process with aliases := process.aliases.filter (·.1 != name) }

def splitName (text : String) : String × Option String :=
  match text.toList with
  | '=' :: rest =>
      let (name, value) := splitAssignment (String.ofList rest)
      ("=" ++ name, value)
  | _ => splitAssignment text

def nameCommands : Builtin := fun arguments => do
  if arguments.isEmpty then
    return ← print (String.join ((inTableOrder (← getProcess).aliases.reverse).map aliasLine))
  let mut status := 0
  for argument in arguments do
    match splitName argument with
    | (name, some text) =>
        removeAlias name
        modifyProcess fun process => { process with aliases := (name, text) :: process.aliases }
    | (name, none) =>
        match (← getProcess).aliases.find? (·.1 == name) with
        | some item => let _ ← print (aliasLine item)
        | none => status ← missingAlias "alias" name
  return status

def forgetNames : Builtin := fun arguments => do
  let (letters, names) ← options ['a'] arguments
  if letters.contains 'a' then
    modifyProcess fun process => { process with aliases := [] }
    return 0
  let mut status := 0
  for name in names do
    if (← getProcess).aliases.any (·.1 == name) then removeAlias name
    else status ← missingAlias "unalias" name
  return status

def regularBuiltin? (perform : Performer) (name : String) : Option Builtin :=
  match name with
  | "[" => some testBrackets
  | "test" => some testCondition
  | "cd" => some changeDirectory
  | "command" => some describeCommand
  | "echo" => some fun texts => print (echoText texts)
  | "true" => some fun _ => return 0
  | "alias" => some nameCommands
  | "unalias" => some forgetNames
  | "false" => some fun _ => return 1
  | "getopts" => some getOptions
  | "kill" => some (kill perform)
  | "printf" => some printFormatted
  | "pwd" => some (printDirectory false)
  | "read" => some readVariables
  | "type" => some describeAll
  | "ulimit" => some changeLimits
  | "umask" => some changeMask
  | "wait" => some (wait perform)
  | _ => none

end StreamWidth.Shell
