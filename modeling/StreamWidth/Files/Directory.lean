import StreamWidth.Files.Tree

/-!
Directories and rights: what lies in a directory, how entries come, go and move, and who may use them.
-/

namespace StreamWidth.FileTree

def children (tree : FileTree) (location : Location) : List String :=
  let names := tree.entries.filterMap fun (place, _) =>
    if place.dropLast == location then place.getLast? else none
  names.mergeSort fun left right => left ≤ right

def isDirectory (tree : FileTree) (path : String) : Bool :=
  match tree.find path with
  | .ok (.directory _) => true
  | _ => false

def make (tree : FileTree) (path : String) (entry : FileEntry) : Except FileError FileTree := do
  let location ← tree.locateName path
  match tree.entry? location with
  | some _ => throw .fileExists
  | none => return tree.put location entry

def makeDirectory (tree : FileTree) (path : String) : Except FileError FileTree :=
  let name := String.ofList (path.toList.reverse.dropWhile (· == '/')).reverse
  tree.make (if name.isEmpty then path else name) (.directory (tree.masked runningMode))

def removeEmptyDirectory (tree : FileTree) (path : String) : Except FileError FileTree := do
  let location ← tree.locateName path
  match tree.entry? location with
  | none => throw .notFound
  | some (.directory _) =>
      if (tree.children location).isEmpty then tree.removeDirectory path else throw .notEmpty
  | some _ => throw .notDirectory

def move (tree : FileTree) (source target : Location) : FileTree :=
  let kept := tree.entries.filter fun item => !target.isPrefixOf item.1 || source.isPrefixOf item.1
  let moved := kept.map fun (place, entry) =>
    if source.isPrefixOf place then (target ++ place.drop source.length, entry) else (place, entry)
  { tree with entries := moved }

def age? (tree : FileTree) (location : Location) : Option Nat :=
  tree.entries.findIdx? (·.1 == location)

end StreamWidth.FileTree

namespace StreamWidth.FileEntry

def mode : FileEntry → Nat
  | .file _ mode | .directory mode | .pipe _ mode => mode
  | .link _ => 0o777
  | .device _ => 0o666

end StreamWidth.FileEntry
