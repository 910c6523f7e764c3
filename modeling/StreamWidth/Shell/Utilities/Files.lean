import StreamWidth.Shell.Utilities.Task

/-!
Utilities that make, copy, move and remove files.
-/

namespace StreamWidth.Shell

def baseName (path : String) : String :=
  let kept := (path.toList.reverse.dropWhile (· == '/')).reverse
  if kept.isEmpty then (if path.isEmpty then "" else "/")
  else String.ofList (kept.reverse.takeWhile (· != '/')).reverse

def within (directory path : String) : String :=
  Path.join directory (baseName path)

def isDirectoryAt (path : String) : Working Bool := do
  return (← get).files.isDirectory (decode path)

def sameFile (left right : String) : Working Bool := do
  match ← Working.locate left, ← Working.locate right with
  | .ok left, .ok right => return left == right
  | _, _ => return false

/-- The targets of copies and moves: one path, or a directory for any number of them. -/
def withTargets (task : Task) (operands : List String) (action : String → String → Working Unit) :
    Report :=
  match operands.reverse with
  | [] => task.misuse "missing file operand" 1
  | [only] => task.misuse ("missing destination file operand after " ++ inMarks only) 1
  | target :: sources => task.work do
      if ← isDirectoryAt target then
        for source in sources.reverse do
          action source (within target source)
      else
        match sources with
        | [source] => action source target
        | _ =>
            match ← Working.find target with
            | .ok _ => Working.complain task ("target " ++ nameInMarks target ++ ": Not a directory")
            | .error error =>
                Working.complain task ("target " ++ nameInMarks target ++ ": " ++ error.text)

def copyTree (files : FileTree) (source target : Location) : FileTree :=
  let copied := files.entries.filterMap fun (place, entry) =>
    if source.isPrefixOf place then some (target ++ place.drop source.length, entry) else none
  copied.foldl (fun files (place, entry) => files.put place entry) files

def copyDirectory (task : Task) (source target : String) : Working Unit := do
  match ← Working.locate source, ← Working.locate target, ← Working.find target with
  | .ok here, .ok there, .ok (.directory _)
  | .ok here, .ok there, .error .notFound =>
      if here.isPrefixOf there then
        Working.complain task ("cannot copy a directory, " ++ nameInMarks source ++ ", into itself, " ++
          nameInMarks target)
      else modify fun work => { work with files := copyTree work.files here there }
  | _, _, .ok _ =>
      Working.complain task
        ("cannot overwrite non-directory " ++ nameInMarks target ++ " with directory " ++ nameInMarks source)
  | _, _, .error error =>
      Working.complain task ("cannot create directory " ++ nameInMarks target ++ ": " ++ error.text)

/-- How files are copied. -/
structure Copying where
  recursive : Bool
  asLinks : Bool
  keepMode : Bool
  verbose : Bool

def copyEntry (entry : FileEntry) (copying : Copying) (source target : String) (files : FileTree) :
    Except FileError FileTree := do
  if !files.pathExists (decode target) && Path.endsInSlash target then throw .notDirectory
  match entry with
  | .link _ => files.make (decode target) entry
  | .pipe _ mode =>
      if copying.recursive then files.make (decode target) (.pipe .empty mode)
      else files.write (decode target) (← files.read (decode source))
  | .file content mode => do
      let location ← files.locate (decode target)
      match files.entry? location with
      | none =>
          let mode := if copying.keepMode then mode else files.masked (mode &&& FileTree.runningMode)
          return files.put location (.file content mode)
      | some (.file _ old) =>
          return files.put location (.file content (if copying.keepMode then mode else old))
      | some _ => files.write (decode target) content
  | _ => files.write (decode target) (← files.read (decode source))

def isBehindFile (files : FileTree) (path : String) : Bool :=
  files.find (decode path) matches .error .notDirectory

def copyFile (task : Task) (copying : Copying) (source target : String) : Working Unit := do
  let files := (← get).files
  let found := if copying.asLinks then files.findName (decode source) else files.find (decode source)
  match found with
  | .error error => Working.complain task ("cannot stat " ++ nameInMarks source ++ ": " ++ error.text)
  | .ok (.directory _) =>
      if copying.recursive then copyDirectory task source target
      else Working.complain task ("-r not specified; omitting directory " ++ nameInMarks source)
  | .ok entry =>
      if isBehindFile files target then
        Working.complain task ("cannot stat " ++ nameInMarks target ++ ": Not a directory")
      else if ← sameFile source target then
        Working.complain task (nameInMarks source ++ " and " ++ nameInMarks target ++ " are the same file")
      else
        let copied := copyEntry entry copying source target files
        if ← Working.change task ("cannot create regular file " ++ nameInMarks target) copied then
          if copying.verbose then
            Working.put (nameInMarks source ++ " -> " ++ nameInMarks target ++ "\n")

def copyUtility : Utility := fun task =>
  (OptionTable.of ['r', 'R', 'f', 'p', 'a', 'v', 'n', 'd', 'L', 'P'] []
    [("recursive", 'r'), ("force", 'f'), ("archive", 'a'), ("verbose", 'v'), ("no-clobber", 'n'),
      ("dereference", 'L')]).run 1 task fun arguments =>
    let copying : Copying := {
      recursive := ['r', 'R', 'a'].any arguments.has
      asLinks := ['r', 'R', 'a', 'd', 'P'].any arguments.has && !arguments.has 'L'
      keepMode := ['a', 'p'].any arguments.has
      verbose := arguments.has 'v' }
    withTargets task arguments.operands fun source target => do
      if arguments.has 'n' && (← get).files.pathExists (decode target) then return
      copyFile task copying source target

def moveFile (task : Task) (verbose : Bool) (source target : String) : Working Unit := do
  let attempt := "cannot move " ++ nameInMarks source ++ " to " ++ nameInMarks target
  let files := (← get).files
  match files.findName (decode source) with
  | .error error => Working.complain task ("cannot stat " ++ nameInMarks source ++ ": " ++ error.text)
  | .ok entry =>
      if isBehindFile files target then
        Working.complain task ("cannot stat " ++ nameInMarks target ++ ": Not a directory")
        return
      match files.locateName (decode source), files.locateName (decode target) with
      | .ok here, .ok there =>
          if here == there then
            Working.complain task (nameInMarks source ++ " and " ++ nameInMarks target ++ " are the same file")
          else
            match entry, files.entry? there with
            | .directory _, some (.file _ _) =>
                Working.complain task ("cannot overwrite non-directory " ++ nameInMarks target ++
                  " with directory " ++ nameInMarks source)
            | .file _ _, some (.directory _) =>
                Working.complain task ("cannot overwrite directory " ++ nameInMarks target ++
                  " with non-directory " ++ nameInMarks source)
            | _, _ =>
                if (entry matches .directory _) && here.isPrefixOf there then
                  Working.complain task ("cannot move " ++ nameInMarks source ++
                    " to a subdirectory of itself, " ++ nameInMarks target)
                  return
                modify fun work => { work with files := work.files.move here there }
                if verbose then
                  Working.put ("renamed " ++ nameInMarks source ++ " -> " ++ nameInMarks target ++ "\n")
      | _, .error error => Working.complain task (attempt ++ ": " ++ error.text)
      | .error error, _ => Working.complain task (attempt ++ ": " ++ error.text)

def moveUtility : Utility := fun task =>
  (OptionTable.of ['f', 'n', 'v'] [] [("force", 'f'), ("no-clobber", 'n'), ("verbose", 'v')]).run 1 task
    fun arguments =>
      withTargets task arguments.operands fun source target => do
        if arguments.has 'n' && (← get).files.pathExists (decode target) then return
        moveFile task (arguments.has 'v') source target

def endsInDots (path : String) : Bool :=
  baseName path == "." || baseName path == ".."

def pathsBelow (files : FileTree) (path : String) : List (String × FileEntry) :=
  match files.locate (decode path) with
  | .error _ => []
  | .ok location =>
      let below := files.entries.filter fun item =>
        location.isPrefixOf item.1 && item.1 != location
      let text (place : Location) : String := "/".intercalate place
      let sorted := below.mergeSort fun left right =>
        right.1.isPrefixOf left.1 || (!left.1.isPrefixOf right.1 && text left.1 ≤ text right.1)
      sorted.map fun (place, entry) =>
        (Path.joinAll path ((place.drop location.length).map encode), entry)

def removedText (path : String) (entry : FileEntry) : String :=
  "removed " ++ (if entry matches .directory _ then "directory " else "") ++ nameInMarks path ++ "\n"

def removePath (task : Task) (recursive forced directories verbose : Bool) (path : String) :
    Working Unit := do
  let attempt := "cannot remove " ++ nameInMarks path
  let files := (← get).files
  if recursive && endsInDots path then
    Working.complain task ("refusing to remove '.' or '..' directory: skipping " ++ nameInMarks path)
  else if recursive && path == "/" then
    Working.complain task "it is dangerous to operate recursively on '/'"
    Working.complain task "use --no-preserve-root to override this failsafe"
  else
    match files.findName (decode path) with
    | .error error =>
        unless forced && (error = .notFound || error = .notDirectory) do
          Working.complain task (attempt ++ ": " ++ error.text)
    | .ok (.directory mode) =>
        let told := (pathsBelow files path ++ [(path, FileEntry.directory mode)]).map fun (path, entry) =>
          removedText path entry
        let removed ←
          if recursive then Working.change task attempt (files.removeDirectory (decode path))
          else if directories then
            Working.change task attempt (files.removeEmptyDirectory (decode path))
          else do
            Working.complain task (attempt ++ ": " ++ FileError.isDirectory.text)
            pure false
        if removed && verbose then Working.put (String.join told)
    | .ok entry =>
        if ← Working.change task attempt (files.remove (decode path)) then
          if verbose then Working.put (removedText path entry)

def removeUtility : Utility := fun task =>
  (OptionTable.of ['r', 'R', 'f', 'd', 'v'] []
    [("recursive", 'r'), ("force", 'f'), ("dir", 'd'), ("verbose", 'v')]).run 1 task fun arguments =>
    let forced := arguments.has 'f'
    if arguments.operands.isEmpty && !forced then task.misuse "missing operand" 1
    else
      task.work do
        for path in arguments.operands do
          removePath task (arguments.has 'r' || arguments.has 'R') forced (arguments.has 'd')
            (arguments.has 'v') path

def withParents (path : String) : List String :=
  let names := path.splitOn "/"
  ((List.range names.length).map fun count => "/".intercalate (names.take (names.length - count))).filter
    (!·.isEmpty)

def removeDirectoryUtility : Utility := fun task =>
  (OptionTable.of ['p', 'v'] [] [("parents", 'p'), ("verbose", 'v')]).run 1 task fun arguments =>
    if arguments.operands.isEmpty then task.misuse "missing operand" 1
    else
      task.work do
        for operand in arguments.operands do
          for path in if arguments.has 'p' then withParents operand else [operand] do
            let removed := (← get).files.removeEmptyDirectory (decode path)
            let _ ← Working.change task ("failed to remove " ++ nameInMarks path) removed

def touchUtility : Utility := fun task =>
  (OptionTable.of ['a', 'c', 'm'] [] [("no-create", 'c')]).run 1 task fun arguments =>
    if arguments.operands.isEmpty then task.misuse "missing file operand" 1
    else
      task.work do
        for path in arguments.operands do
          let attempt := if Path.endsInSlash path then "setting times of " else "cannot touch "
          match ← Working.locate path, ← Working.find path with
          | .ok location, .ok entry =>
              -- What was written last stands first.
              modify fun work => { work with files := work.files.put location entry }
          | _, .error .notFound =>
              unless arguments.has 'c' do
                let written := (← get).files.write (decode path) .empty
                let _ ← Working.change task (attempt ++ nameInMarks path) written
          | _, .error error =>
              Working.complain task (attempt ++ nameInMarks path ++ ": " ++ error.text)
          | .error error, _ =>
              Working.complain task ("cannot touch " ++ nameInMarks path ++ ": " ++ error.text)

def makeDirectoryUtility : Utility := fun task =>
  (OptionTable.of ['p', 'v'] [] [("parents", 'p'), ("verbose", 'v')]).run 1 task fun arguments =>
    if arguments.operands.isEmpty then task.misuse "missing operand" 1
    else
      task.work do
        for path in arguments.operands do
          let files := (← get).files
          let made :=
            if arguments.has 'p' then files.makeDirectories (decode path)
            else files.makeDirectory (decode path)
          if ← Working.change task ("cannot create directory " ++ nameInMarks path) made then
            if arguments.has 'v' then
              Working.put (task.name ++ ": created directory " ++ nameInMarks path ++ "\n")

end StreamWidth.Shell
