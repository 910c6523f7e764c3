import StreamWidth.Files.Error
import StreamWidth.Files.Path

/-!
Trees of files, as the file system shows them to a program in one of their directories. Links stand
for the places that they name.
-/

namespace StreamWidth

inductive Device
  | null
  | zero
  | full
  | random
  | terminal
  deriving DecidableEq

namespace Device

/-- How much is read of what never ends. -/
def endlessSize : Nat :=
  1 <<< 20

def randomBytes : Nat → Nat → List UInt8
  | 0, _ => []
  | count + 1, state =>
      let next := (state * 1103515245 + 12345) % 2147483648
      (next / 65536).toUInt8 :: randomBytes count next

def read : Device → Except FileError ByteArray
  | .null => .ok .empty
  | .zero | .full => .ok ⟨Array.replicate endlessSize 0⟩
  | .random => .ok ⟨(randomBytes 4096 1).toArray⟩
  | .terminal => .error .noDevice

def take : Device → Except FileError Unit
  | .null | .zero | .random => .ok ()
  | .full => .error .noSpace
  | .terminal => .error .noDevice

end Device

inductive FileEntry
  | file (content : ByteArray) (mode : Nat)
  | directory (mode : Nat)
  | link (target : String)
  | pipe (content : ByteArray) (mode : Nat)
  | device (device : Device)

abbrev Location :=
  List String

structure FileTree where
  /-- The entries by their places, those that were written last in front. -/
  entries : List (Location × FileEntry)
  workingDirectory : Location
  mask : Nat

namespace FileTree

def plainMode : Nat :=
  0o666

def runningMode : Nat :=
  0o777

def usualMask : Nat :=
  0o022

/-- The rights of which the mask leaves nothing else. -/
def masked (tree : FileTree) (mode : Nat) : Nat :=
  mode &&& (0o7777 ^^^ tree.mask)

def runs (mode : Nat) : Bool :=
  mode &&& 0o111 != 0

/-- The root is always there. -/
def entry? (tree : FileTree) (location : Location) : Option FileEntry :=
  if location = [] then some (.directory 0o755)
  else (tree.entries.find? (·.1 == location)).map (·.2)

def put (tree : FileTree) (location : Location) (entry : FileEntry) : FileTree :=
  { tree with entries := (location, entry) :: tree.entries.filter (·.1 != location) }

def pathLimit : Nat :=
  4095

def nameLimit : Nat :=
  255

def linkLimit : Nat :=
  40

def step (tree : FileTree) (location : Location) (name : String) : Except FileError Location :=
  match tree.entry? location with
  | none => .error .notFound
  | some (.directory _) =>
      if name = "" ∨ name = "." then .ok location
      else if name = ".." then .ok location.dropLast
      else if nameLimit < name.utf8ByteSize then .error .nameTooLong
      else .ok (location ++ [name])
  | some _ => .error .notDirectory

def start (tree : FileTree) (path : String) : Except FileError Location :=
  if path.toList.contains '\x00' then .error .nulInPath
  else if path.isEmpty then .error .notFound
  else if pathLimit < path.utf8ByteSize then .error .nameTooLong
  else .ok (if Path.isAbsolute path then [] else tree.workingDirectory)

/-- How far names lead: to a place, or to a link with the names that are left. -/
inductive Passage
  | reached (location : Location)
  | turned (directory : Location) (target : String) (rest : List String)

def follow (tree : FileTree) (last : Bool) : Location → List String → Except FileError Passage
  | location, [] => .ok (.reached location)
  | location, name :: rest => do
      let next ← tree.step location name
      match tree.entry? next with
      | some (.link target) =>
          if rest.isEmpty && !last then return .reached next
          else return .turned location target rest
      | _ => follow tree last next rest

def resolve (tree : FileTree) (last : Bool) : Nat → Location → List String → Except FileError Location
  | 0, _, _ => .error .tooManyLinks
  | links + 1, location, names => do
      match ← tree.follow last location names with
      | .reached place => return place
      | .turned directory target rest =>
          if target.isEmpty then throw .notFound
          else
            resolve tree last links (if Path.isAbsolute target then [] else directory)
              (Path.names target ++ rest)

def locate (tree : FileTree) (path : String) : Except FileError Location := do
  tree.resolve true (linkLimit + 1) (← tree.start path) (Path.names path)

def locateName (tree : FileTree) (path : String) : Except FileError Location := do
  tree.resolve false (linkLimit + 1) (← tree.start path) (Path.names path)

def find (tree : FileTree) (path : String) : Except FileError FileEntry := do
  match tree.entry? (← tree.locate path) with
  | some entry => return entry
  | none => throw .notFound

def findName (tree : FileTree) (path : String) : Except FileError FileEntry := do
  match tree.entry? (← tree.locateName path) with
  | some entry => return entry
  | none => throw .notFound

def pathExists (tree : FileTree) (path : String) : Bool :=
  (tree.find path).isOk

def isFile (tree : FileTree) (path : String) : Bool :=
  match tree.find path with
  | .ok (.file _ _) => true
  | _ => false

def read (tree : FileTree) (path : String) : Except FileError ByteArray := do
  match ← tree.find path with
  | .file content _ | .pipe content _ => return content
  | .directory _ => throw .isDirectory
  | .device device => Device.read device
  | .link _ => throw .notFound

def readText (tree : FileTree) (path : String) : Except FileError String := do
  match String.fromUTF8? (← tree.read path) with
  | some text => return text
  | none => throw .notUtf8

def write (tree : FileTree) (path : String) (content : ByteArray) : Except FileError FileTree := do
  let location ← tree.locate path
  match tree.entry? location with
  | some (.directory _) => throw .isDirectory
  | some (.file _ mode) => return tree.put location (.file content mode)
  | some (.pipe before mode) => return tree.put location (.pipe (before ++ content) mode)
  | some (.device device) => do
      Device.take device
      return tree
  | _ => return tree.put location (.file content (tree.masked plainMode))

def enter (place : FileTree × Location) (name : String) :
    Except FileError (FileTree × Location) := do
  let (tree, location) := place
  let next ← tree.step location name
  match tree.entry? next with
  | none => return (tree.put next (.directory (tree.masked runningMode)), next)
  | some (.link _) => do
      let place ← tree.resolve true (linkLimit + 1) location [name]
      match tree.entry? place with
      | none => throw .fileExists
      | some _ => return (tree, place)
  | some _ => return (tree, next)

def makeDirectories (tree : FileTree) (path : String) : Except FileError FileTree := do
  let (tree, location) ← (Path.names path).foldlM enter (tree, ← tree.start path)
  match tree.entry? location with
  | some (.directory _) | none => return tree
  | some _ => throw .notDirectory

def parent (path : String) : String :=
  match (Path.names path).dropLast with
  | [] => "."
  | [""] => "/"
  | names => String.intercalate "/" names

def install (tree : FileTree) (path : String) (content : ByteArray) (executable : Bool) :
    Except FileError FileTree := do
  let tree ← tree.makeDirectories (parent path)
  let mode := if executable then runningMode else plainMode
  return tree.put (← tree.locate path) (.file content (tree.masked mode))

def remove (tree : FileTree) (path : String) : Except FileError FileTree := do
  let location ← tree.locateName path
  match tree.entry? location with
  | some (.directory _) => throw .isDirectory
  | some _ => return { tree with entries := tree.entries.filter (·.1 != location) }
  | none => throw .notFound

def removeDirectory (tree : FileTree) (path : String) : Except FileError FileTree := do
  let location ← tree.locate path
  return { tree with entries := tree.entries.filter fun item => !location.isPrefixOf item.1 }

def entryCount (tree : FileTree) (path : String) : Nat :=
  match tree.locate path with
  | .error _ => 0
  | .ok location =>
      (tree.entries.filter fun item => item.1.dropLast == location && item.1 != location).length

end FileTree

end StreamWidth
