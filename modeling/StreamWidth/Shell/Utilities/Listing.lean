import StreamWidth.Shell.Utilities.Files
import StreamWidth.Shell.Utilities.Lines

/-!
Listing the names of files.
-/

namespace StreamWidth.Shell

structure Listing where
  all : Bool
  almostAll : Bool
  marked : Bool
  reversed : Bool
  byTime : Bool

/-- Something to be listed: its name, its place, and what is there. -/
structure Listed where
  name : String
  location : Location
  entry : FileEntry

def Listed.isDirectory (listed : Listed) : Bool :=
  listed.entry matches .directory _

namespace Listing

def find? (followed : Bool) (files : FileTree) (name path : String) : Option Listed := do
  let path := decode path
  let location ← (if followed then files.locate path else files.locateName path).toOption
  return ⟨name, location, ← files.entry? location⟩

def shownName (listing : Listing) (listed : Listed) : String :=
  let mark :=
    match listed.entry with
    | .file _ mode => if FileTree.runs mode then "*" else ""
    | .directory _ => "/"
    | .link _ => "@"
    | .pipe _ _ => "|"
    | .device _ => ""
  if listing.marked then listed.name ++ mark else listed.name

def text (listing : Listing) (items : List Listed) : String :=
  unlines (items.map listing.shownName)

def order (listing : Listing) (files : FileTree) (items : List Listed) : List Listed :=
  let byName := items.mergeSort fun left right => left.name ≤ right.name
  let age (item : Listed) : Nat := (files.age? item.location).getD 0
  let sorted :=
    if listing.byTime then byName.mergeSort fun left right => age left ≤ age right else byName
  if listing.reversed then sorted.reverse else sorted

def inside (listing : Listing) (files : FileTree) (path : String) : String × List String :=
  let names :=
    match files.locate (decode path) with
    | .ok location => (files.children location).map encode
    | .error _ => []
  let visible := names.filter fun name =>
    listing.all || listing.almostAll || name.toList.head? != some '.'
  let names := (if listing.all then [".", ".."] else []) ++ visible
  let items := listing.order files (names.filterMap fun name =>
    find? false files name (Path.join path name))
  let inner := items.filter fun item => item.isDirectory && item.name != "." && item.name != ".."
  (listing.text items, inner.map fun item => Path.join path item.name)

/-- Directories with their names above, the inner ones behind the outer ones. -/
def sections (listing : Listing) (files : FileTree) (recursive named : Bool) :
    Nat → List String → List String
  | 0, _ => []
  | _, [] => []
  | fuel + 1, path :: rest =>
      let (text, inner) := listing.inside files path
      let title := if named then path ++ ":\n" else ""
      (title ++ text) ::
        listing.sections files recursive named fuel ((if recursive then inner else []) ++ rest)

end Listing

def listUtility : Utility := fun task =>
  (OptionTable.of ['a', 'A', '1', 'd', 'F', 'r', 'R', 't'] []
    [("all", 'a'), ("almost-all", 'A'), ("directory", 'd'), ("classify", 'F'), ("reverse", 'r'),
      ("recursive", 'R')]).run 2 task fun arguments =>
    let listing : Listing := {
      all := arguments.has 'a'
      almostAll := arguments.has 'A'
      marked := arguments.has 'F'
      reversed := arguments.has 'r'
      byTime := arguments.has 't' }
    let followed := !(arguments.has 'd' || arguments.has 'F')
    let operands := if arguments.operands.isEmpty then ["."] else arguments.operands
    task.workWith 2 do
      let files := (← get).files
      -- A link that leads nowhere is listed as what it is.
      let reach (path : String) : Option Listed :=
        Listing.find? followed files path path <|> Listing.find? false files path path
      for path in operands do
        if (reach path).isNone then
          let error :=
            match files.findName (decode path) with
            | .error error => error
            | .ok _ => .notFound
          Working.complain task ("cannot access " ++ nameInMarks path ++ ": " ++ error.text)
      let (inner, single) := (operands.filterMap reach).partition fun item =>
        !arguments.has 'd' && item.isDirectory
      let directories := (listing.order files inner).map (·.name)
      let recursive := arguments.has 'R'
      let titled := recursive || 1 < operands.length
      let text := listing.text (listing.order files single)
      let fuel := files.entries.length + operands.length + 1
      let sections := listing.sections files recursive titled fuel directories
      Working.put ("\n".intercalate ((if text.isEmpty then [] else [text]) ++ sections))

end StreamWidth.Shell
