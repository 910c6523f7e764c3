import StreamWidth.Files.Directory
import StreamWidth.Shell.Marks

/-!
What a utility is given, and what it reports. Options come before, between and behind operands.
-/

namespace StreamWidth.Shell

structure Task where
  name : String
  arguments : List String
  input : String
  inputFailure : Option FileError
  inputIsFile : Bool
  files : FileTree
  environment : List (String × String)
  clock : Nat

/-- A piece of output, or of complaints. -/
inductive Said
  | output (text : String)
  | complaint (text : String)

structure Report where
  said : List Said
  status : Nat
  files : FileTree
  unread : String

abbrev Utility :=
  Task → Report

namespace Task

def ending (task : Task) (said : List Said) (status : Nat) : Report :=
  ⟨said, status, task.files, task.input⟩

def complaint (task : Task) (text : String) : Said :=
  .complaint (task.name ++ ": " ++ text ++ "\n")

def fail (task : Task) (text : String) : Report :=
  task.ending [task.complaint text] 1

def misuse (task : Task) (text : String) (status : Nat) : Report :=
  task.ending
    [task.complaint text,
      .complaint ("Try '" ++ task.name ++ " --help' for more information.\n")] status

end Task

namespace Report

def reading (report : Report) : Report :=
  { report with unread := "" }

def complaintsFirst (report : Report) : Report :=
  let isComplaint (said : Said) : Bool := said matches .complaint _
  { report with
    said := report.said.filter isComplaint ++ report.said.filter (!isComplaint ·) }

end Report

/-- What a utility makes of option letters. -/
structure OptionTable where
  of ::
  flags : List Char
  valued : List Char
  names : List (String × Char)

abbrev Given :=
  Char × String

structure Arguments where
  given : List Given
  operands : List String

namespace Arguments

def has (arguments : Arguments) (letter : Char) : Bool :=
  arguments.given.any (·.1 == letter)

def value? (arguments : Arguments) (letter : Char) : Option String :=
  (arguments.given.reverse.find? (·.1 == letter)).map (·.2)

def add (given : List Given) (arguments : Arguments) : Arguments :=
  { arguments with given := given ++ arguments.given }

end Arguments

namespace OptionTable

def readLetters (table : OptionTable) : List Char → Except String (List Given × Option Char)
  | [] => .ok ([], none)
  | letter :: rest =>
      if table.flags.contains letter then do
        let (given, waiting) ← table.readLetters rest
        return ((letter, "") :: given, waiting)
      else if table.valued.contains letter then
        if rest.isEmpty then .ok ([], some letter) else .ok ([(letter, String.ofList rest)], none)
      else .error ("invalid option -- '" ++ String.singleton letter ++ "'")

def longOption (table : OptionTable) (name word : List Char) : Except String (String × Char) :=
  match table.names.find? (·.1.toList == name) with
  | some found => .ok found
  | none =>
      match table.names.filter fun item => name.isPrefixOf item.1.toList with
      | [found] => .ok found
      | first :: second :: rest =>
          if (second :: rest).all (·.2 == first.2) then .ok first
          else
            .error ("option '--" ++ String.ofList word ++ "' is ambiguous; possibilities:" ++
              String.join ((first :: second :: rest).map fun item => " '--" ++ item.1 ++ "'"))
      | [] => .error ("unrecognized option '--" ++ String.ofList word ++ "'")

def readLong (table : OptionTable) (word : List Char) : Except String (List Given × Option Char) := do
  let name := word.takeWhile (· != '=')
  let (full, letter) ← table.longOption name word
  let hasValue := name.length < word.length
  if table.valued.contains letter then
    if hasValue then return ([(letter, String.ofList (word.drop (name.length + 1)))], none)
    else return ([], some letter)
  else if hasValue then throw ("option '--" ++ full ++ "' doesn't allow an argument")
  else return ([(letter, "")], none)

def readWords (table : OptionTable) (inFront : Bool) : List String → Except String Arguments
  | [] => .ok ⟨[], []⟩
  | word :: rest => do
      let continue? (found : List Given × Option Char) (missing : String) :
          Except String Arguments :=
        match found with
        | (given, none) => do return (← table.readWords inFront rest).add given
        | (given, some letter) =>
            match rest with
            | value :: others => do
                return (← table.readWords inFront others).add (given ++ [(letter, value)])
            | [] => .error missing
      match word.toList with
      | ['-', '-'] => return ⟨[], rest⟩
      | '-' :: '-' :: name => do
          continue? (← table.readLong name) ("option '" ++ word ++ "' requires an argument")
      | '-' :: letter :: letters => do
          let found ← table.readLetters (letter :: letters)
          let waiting := String.singleton (found.2.getD letter)
          continue? found ("option requires an argument -- '" ++ waiting ++ "'")
      | _ =>
          if inFront then return ⟨[], word :: rest⟩
          else do
            let arguments ← table.readWords inFront rest
            return { arguments with operands := word :: arguments.operands }

def read (table : OptionTable) (words : List String) : Except String Arguments :=
  table.readWords false words

/-- Runs a utility on its options, or complains about them with a status. -/
def run (table : OptionTable) (status : Nat) (task : Task) (body : Arguments → Report) : Report :=
  match table.read task.arguments with
  | .ok arguments => body arguments
  | .error text => task.misuse text status

end OptionTable

/-! Utilities that go on after a complaint. -/

/-- What has been done so far; what was said stands in reverse. -/
structure Work where
  files : FileTree
  said : List Said
  failed : Bool

abbrev Working :=
  StateM Work

namespace Working

def put (text : String) : Working Unit :=
  modify fun work => { work with said := .output text :: work.said }

def complain (task : Task) (text : String) : Working Unit :=
  modify fun work => { work with said := task.complaint text :: work.said, failed := true }

def find (path : String) : Working (Except FileError FileEntry) :=
  return (← get).files.find (decode path)

def locate (path : String) : Working (Except FileError Location) :=
  return (← get).files.locate (decode path)

def change (task : Task) (attempt : String) (result : Except FileError FileTree) :
    Working Bool := do
  match result with
  | .ok files => do
      modify fun work => { work with files }
      return true
  | .error error => do
      complain task (attempt ++ ": " ++ error.text)
      return false

end Working

/-- Works through a task. -/
def Task.workWith (task : Task) (failure : Nat) (action : Working Unit) : Report :=
  let work := (action.run ⟨task.files, [], false⟩).2
  ⟨work.said.reverse, if work.failed then failure else 0, work.files, task.input⟩

def Task.work (task : Task) (action : Working Unit) : Report :=
  task.workWith 1 action

/-! Files as utilities see them. -/

def Task.find (task : Task) (path : String) : Except FileError FileEntry :=
  task.files.find (decode path)

def Task.read (task : Task) (path : String) : Except FileError String :=
  (task.files.read (decode path)).map textOfBytes

def Task.readOperand (task : Task) (path : String) : Except FileError String :=
  if path == "-" then
    match task.inputFailure with
    | some error => .error error
    | none => .ok task.input
  else task.read path

def Task.afterReading (task : Task) (path : String) : Task :=
  let place (path : String) : Option Location := (task.files.locate path).toOption
  let isInput := place (decode path) == place "/dev/stdin"
  match task.files.locate (decode path), task.find path with
  | .ok location, .ok (.pipe _ mode) =>
      { task with
        files := task.files.put location (.pipe .empty mode)
        input := if isInput then "" else task.input }
  | _, _ => task

/-- Operands with their texts. Once the input has been read, nothing is left of it. -/
def Task.readInTurn (task : Task) : List String → List (String × Except FileError String)
  | [] => []
  | path :: rest =>
      let later :=
        if path == "-" then { task.afterReading "/dev/stdin" with input := "" }
        else task.afterReading path
      (path, task.readOperand path) :: later.readInTurn rest

def Task.readAll (task : Task) (operands : List String) :
    List (String × Except FileError String) :=
  task.readInTurn (if operands.isEmpty then ["-"] else operands)

def lines (text : String) : List String :=
  let parts := text.splitOn "\n"
  if parts.getLast? == some "" then parts.dropLast else parts

def total (counts : List Nat) : Nat :=
  counts.foldl (fun sum count => sum + count) 0

def unlines (texts : List String) : String :=
  String.join (texts.map fun text => text ++ "\n")

end StreamWidth.Shell
