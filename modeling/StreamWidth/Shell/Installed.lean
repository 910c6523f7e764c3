import StreamWidth.Files.System
import StreamWidth.Shell.Bytes

/-!
Finding the program that a command names. A file that names an interpreter in its first line is a
program through that interpreter.
-/

namespace StreamWidth.Shell

/-- A program of the system with its arguments, the first of which is its name. -/
structure Started where
  program : String
  words : List String

def isBlank (c : Char) : Bool :=
  c == ' ' || c == '\t'

def trimBlanks (chars : List Char) : List Char :=
  ((chars.dropWhile isBlank).reverse.dropWhile isBlank).reverse

def headLength : Nat :=
  256

/-- The interpreter that a first line names, and its argument. A name that may have been cut short
does not count, nor does an empty one that a line ends. -/
def interpreter? (content : List Char) : Option (List String) :=
  let head := content.take headLength
  let isNameEnd (c : Char) : Bool := isBlank c || c == '\x00'
  match head ++ List.replicate (headLength - head.length) '\x00' with
  | '#' :: '!' :: rest =>
      let line := rest.takeWhile (· != '\n')
      let shown := trimBlanks line
      let name := shown.takeWhile (!isNameEnd ·)
      let isCut := !(line.dropWhile isBlank).any isNameEnd
      if line.length = rest.length then
        if isCut then none else some (words name shown)
      else if name.isEmpty then none
      else some (words name shown)
  | _ => none
where
  words (name line : List Char) : List String :=
    let argument :=
      ((line.drop name.length).dropWhile isBlank).takeWhile (· != '\x00')
    String.ofList name :: (if argument.isEmpty then [] else [String.ofList argument])

def interpreterLimit : Nat :=
  6

def programAt (files : FileTree) : Nat → String → String → List String → Except FileError Started
  | limit, path, name, arguments => do
      match ← if path.isEmpty then .error .accessDenied else files.find (decode path) with
      | .file content mode =>
          if FileTree.runs mode then
            match limit, System.programOf? content, interpreter? (charsOfBytes content) with
            | 0, _, _ => throw .tooManyLinks
            | _, some program, _ => return ⟨program, name :: arguments⟩
            | limit + 1, none, some (interpreter :: options) =>
                programAt files limit interpreter interpreter (options ++ path :: arguments)
            | _, none, _ => throw .notProgram
          else throw .accessDenied
      | _ => throw .accessDenied

/-- Looks through the directories where programs are sought. What is found but is no program is
remembered if nothing else is found. -/
def search (files : FileTree) (name : String) : List String → Except FileError String
  | [] => .error .notFound
  | directory :: rest =>
      let path := if directory.isEmpty then "./" ++ name else directory ++ "/" ++ name
      match files.find (decode path), search files name rest with
      | .ok (.file _ mode), found =>
          if FileTree.runs mode then .ok path
          else if found matches .error .notFound then .error .accessDenied
          else found
      | .ok _, .error .notFound => .error .accessDenied
      | _, found => found

def isPath (name : String) : Bool :=
  name.toList.contains '/'

def programPath (files : FileTree) (places : String) (name : String) : Except FileError String :=
  if isPath name then .ok name else search files name (places.splitOn ":")

def findProgram (files : FileTree) (places : String) : List String → Except FileError Started
  | [] => .error .notFound
  | name :: arguments => do
      programAt files interpreterLimit (← programPath files places name) name arguments

def usualPlaces : String :=
  "/usr/local/sbin:/usr/local/bin:/usr/sbin:/usr/bin:/sbin:/bin"

end StreamWidth.Shell
