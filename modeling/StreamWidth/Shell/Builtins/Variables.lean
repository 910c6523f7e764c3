import StreamWidth.Shell.Conditions
import StreamWidth.Shell.Expansion
import StreamWidth.Shell.Printf

/-!
Builtin commands that read and change the variables and options of the shell.
-/

namespace StreamWidth.Shell

/-- A command of the shell itself: from its arguments to its status. -/
abbrev Builtin :=
  List String → Run Nat

/-- The option letters at the start of arguments, and the arguments behind them. -/
def takeOptions (known : List Char) : Nat → List String → Run (List Char × List String)
  | 0, arguments => return ([], arguments)
  | _, [] => return ([], [])
  | fuel + 1, first :: rest => do
      match first.toList with
      | ['-', '-'] => return ([], rest)
      | '-' :: c :: letters => do
          match (c :: letters).find? fun c => !known.contains c with
          | some c => refuse ("Illegal option -" ++ String.singleton c)
          | none => do
              let (more, rest) ← takeOptions known fuel rest
              return (c :: letters ++ more, rest)
      | _ => return ([], first :: rest)

def options (known : List Char) (arguments : List String) : Run (List Char × List String) :=
  takeOptions known (arguments.length + 1) arguments

def quotedText (text : String) : String :=
  let quotedPart (part : String) : String := "'" ++ part ++ "'"
  let parts := text.splitOn "'"
  match parts with
  | [part] => quotedPart part
  | _ =>
      "\"'\"".intercalate
        (parts.mapIdx fun index part => if part.isEmpty && index != 0 then "" else quotedPart part)

def splitAssignment (text : String) : String × Option String :=
  let name := text.toList.takeWhile (· != '=')
  if name.length < text.length then
    (String.ofList name, some (String.ofList (text.toList.drop (name.length + 1))))
  else (text, none)

def print (text : String) : Run Nat := do
  if ← write 1 text then return 0
  else do
    complain (((← getProcess).builtin.getD "") ++ ": I/O error")
    return 1

def checkName (name : String) : Run Unit := do
  unless isName name do
    refuse (name ++ ": bad variable name")

def markVariables (word : String) (isMarked : Variable → Bool) (mark : Variable → Variable) :
    Builtin := fun arguments => do
  let (letters, names) ← options ['p'] arguments
  if names.isEmpty || letters.contains 'p' then
    let lines := (← getProcess).bindings.entries.filterMap fun (name, content) =>
      if isMarked content then
        let value := (content.value.map fun value => "=" ++ quotedText value).getD ""
        some (word ++ " " ++ name ++ value ++ "\n")
      else none
    print (String.join lines)
  else
    for argument in names do
      let (name, value) := splitAssignment argument
      checkName name
      match value with
      | some value => assign name value
      | none => pure ()
      changeVariable name mark
    return 0

def exportVariables : Builtin :=
  markVariables "export" (·.exported) fun old => { old with exported := true }

def protectVariables : Builtin :=
  markVariables "readonly" (·.readOnly) fun old => { old with readOnly := true }

def unsetNames : Builtin := fun arguments => do
  let (letters, names) ← options ['f', 'v'] arguments
  for name in names do
    if letters.getLast? == some 'f' then
      modifyProcess fun process =>
        { process with functions := process.functions.filter (·.1 != name) }
    else
      checkName name
      if ← isReadOnly name then refuse (name ++ ": is read only")
      noticeValue name ""
      modifyProcess fun process => { process with bindings := process.bindings.erase name }
  return 0

def localVariables : Builtin := fun arguments => do
  if (← getProcess).locals.isEmpty then refuse "not in a function"
  for argument in arguments do
    let (name, value) := splitAssignment argument
    checkName name
    modifyProcess fun process =>
      match process.locals with
      | innermost :: rest =>
          { process with locals := ((name, process.bindings.get? name) :: innermost) :: rest }
      | [] => process
    match value with
    | some value => assign name value
    | none => pure ()
  return 0

def optionNames : List (String × Char) :=
  [("errexit", 'e'), ("noglob", 'f'), ("ignoreeof", 'I'), ("interactive", 'i'), ("monitor", 'm'),
    ("noexec", 'n'), ("stdin", 's'), ("xtrace", 'x'), ("verbose", 'v'), ("vi", 'V'), ("emacs", 'E'),
    ("noclobber", 'C'), ("allexport", 'a'), ("notify", 'b'), ("nounset", 'u'),
    ("privileged", 'p')]

def idleOptionNames : List String :=
  ["nolog", "debug"]

def turn (on : Bool) (letter : Char) : Run Unit :=
  modifyProcess fun process =>
    let others := process.options.filter (· != letter)
    { process with
      options :=
        if on then (optionNames.map (·.2)).filter ((letter :: others).contains ·) else others }

def sign (on : Bool) : String :=
  if on then "-" else "+"

def turnLetters (on : Bool) (letters : List Char) : Run Unit := do
  for letter in letters do
    if optionNames.any (·.2 == letter) then turn on letter
    else refuse ("Illegal option " ++ sign on ++ String.singleton letter)

def padRight (width : Nat) (text : String) : String :=
  text ++ String.ofList (List.replicate (width - text.length) ' ')

def printOptions : Run Unit := do
  let process ← getProcess
  let line (name : String) (on : Bool) : String :=
    padRight 16 name ++ (if on then "on\n" else "off\n")
  let lines := optionNames.map fun (name, letter) => line name (process.options.contains letter)
  let others := idleOptionNames.map (line · false)
  let _ ← write 1 ("Current option settings\n" ++ String.join (lines ++ others))

def printSettings : Run Unit := do
  let process ← getProcess
  let line (name : String) (on : Bool) : String := "set " ++ sign on ++ "o " ++ name ++ "\n"
  let lines := optionNames.map fun (name, letter) => line name (process.options.contains letter)
  let others := idleOptionNames.map (line · false)
  let _ ← write 1 (String.join (lines ++ others))

/-- Options at the start of arguments. The rest is none if there is nothing that could become the
positional parameters. -/
def setOptions : Nat → List String → Run (Option (List String))
  | 0, arguments => return some arguments
  | _, [] => return none
  | fuel + 1, first :: rest => do
      match first.toList with
      | ['-', '-'] => return some rest
      | ['-'] => do
          turnLetters false ['x', 'v']
          return if rest.isEmpty then none else some rest
      | ['-', 'o'] | ['+', 'o'] => do
          let on := first == "-o"
          match rest with
          | [] => do
              if on then printOptions else printSettings
              return none
          | name :: rest =>
              match optionNames.find? (·.1 == name) with
              | some (_, letter) => do
                  turn on letter
                  setOptions fuel rest
              | none => refuse ("Illegal option -o " ++ name)
      | '-' :: letters => do
          turnLetters true letters
          setOptions fuel rest
      | '+' :: c :: letters => do
          turnLetters false (c :: letters)
          setOptions fuel rest
      | _ => return some (first :: rest)

def setBuiltin : Builtin := fun arguments => do
  if arguments.isEmpty then
    let lines := (← getProcess).bindings.entries.filterMap fun (name, content) =>
      content.value.map fun value => name ++ "=" ++ quotedText value ++ "\n"
    print (String.join lines)
  else
    match ← setOptions (arguments.length + 1) arguments with
    | some arguments => do
        modifyProcess fun process => { process with arguments, optionPlace := .first }
        return 0
    | none => return 0

def shift : Builtin := fun arguments => do
  let count ←
    match arguments with
    | [] => pure 1
    | text :: _ => smallNumber text
  if (← getProcess).arguments.length < count then refuse "can't shift that many"
  modifyProcess fun process =>
    { process with arguments := process.arguments.drop count, optionPlace := .first }
  return 0

/-! Reading options of a script. -/

inductive OptionFound
  | letter (letter : Char) (rest : List Char) (place : OptionPlace)
  | finish (place : OptionPlace)

def insideArgument? (arguments : List String) (place : OptionPlace) : Option OptionFound := do
  let offset ← place.offset
  let text ← if 1 < place.next then arguments[place.next - 2]? else none
  match text.toList.drop offset with
  | letter :: rest => return .letter letter rest ⟨place.next, some (offset + 1)⟩
  | [] => none

def nextLetter (arguments : List String) (place : OptionPlace) : OptionFound :=
  match insideArgument? arguments place with
  | some found => found
  | none =>
      match (arguments[place.next - 1]?).map (·.toList) with
      | some ['-', '-'] => .finish ⟨place.next + 1, none⟩
      | some ('-' :: letter :: rest) => .letter letter rest ⟨place.next + 1, some 2⟩
      | _ => .finish ⟨place.next, none⟩

def takesValue (known : List Char) (letter : Char) : Bool :=
  ((known.dropWhile (· != letter)).drop 1).head? == some ':'

def unsetVariable (name : String) : Run Unit :=
  modifyProcess fun process => { process with bindings := process.bindings.erase name }

def leaveAt (place : OptionPlace) (name value : String) : Run Unit := do
  assign "OPTIND" (toString place.next)
  assign name value
  modifyProcess fun process => { process with optionPlace := place }

def refuseLetter (place : OptionPlace) (silent : Bool) (name mark letter complaint : String) :
    Run Unit := do
  if silent then
    assign "OPTARG" letter
    leaveAt place name mark
  else
    writeError complaint
    unsetVariable "OPTARG"
    leaveAt place name "?"

def getOptions : Builtin := fun arguments => do
  let known :: name :: given := arguments | refuse "Usage: getopts optstring var [arg...]"
  let silent := known.toList.head? == some ':'
  let letters := if silent then known.toList.drop 1 else known.toList
  let process ← getProcess
  let subject := if given.isEmpty then process.arguments else given
  let place :=
    if subject.length + 1 < process.optionPlace.next then .first else process.optionPlace
  match nextLetter subject place with
  | .finish place => do
      leaveAt place name "?"
      return 1
  | .letter letter rest place => do
      let text := String.singleton letter
      if letter == ':' || !letters.contains letter then
        refuseLetter place silent name "?" text ("Illegal option -" ++ text ++ "\n")
      else if takesValue letters letter then
        match rest, subject[place.next - 1]? with
        | [], some value => do
            assign "OPTARG" value
            leaveAt ⟨place.next + 1, none⟩ name text
        | [], none =>
            refuseLetter place silent name ":" text ("No arg for -" ++ text ++ " option\n")
        | value, _ => do
            assign "OPTARG" (String.ofList value)
            leaveAt ⟨place.next, none⟩ name text
      else do
        assign "OPTARG" ""
        leaveAt place name text
      return 0

end StreamWidth.Shell
