import StreamWidth.Shell.Expansion

/-!
Where the streams of a command lead.
-/

namespace StreamWidth.Shell

/-- A redirection whose target is known. -/
inductive Direction
  | open (stream : Nat) (transfer : Transfer) (path : String)
  | copy (stream source : Nat)
  | close (stream : Nat)
  | text (stream : Nat) (content : String)

def copyDirection (stream : Nat) (text : String) : Run Direction := do
  match text.toList with
  | ['-'] => return .close stream
  | [c] =>
      if c.isDigit then return .copy stream (c.toNat - '0'.toNat)
      else refuse "Syntax error: Bad fd number"
  | _ => refuse "Syntax error: Bad fd number"

def direction (perform : Performer) : Redirection → Run Direction
  | .document stream number => do
      let body := ((← getProcess).documents.find? (·.1 == number)).map (·.2)
      return .text stream (textOfGlyphs (← expandWord perform (body.getD [])))
  | .file stream transfer target => do
      let text ← expandText perform target
      match transfer with
      | .copyInput | .copyOutput => copyDirection stream text
      | _ => return .open stream transfer text

inductive Opening
  | shared (index : Nat)
  | opened (stream : Stream)

/-- A stream that is opened once more by its place among the files. What leads to a file is opened
anew; what does not is shared. -/
def sharedStream? (machine : Machine) (location : Location) : Option Nat := do
  let number ← Machine.streamNumber? location
  let (index, stream) ← machine.stream? number
  match stream.target with
  | .buffer _ => some index
  | _ => none

def openForReading (machine : Machine) (path : String) : Except FileError Opening := do
  let files := machine.filesWithStreams
  let location ← files.locate path
  match sharedStream? machine location, files.entry? location with
  | some index, _ => return .shared index
  | none, none => throw .notFound
  | none, some (.device .terminal) => throw .noDevice
  | none, some (.device device) => return .opened ⟨.device device, 0, false, true, true⟩
  | none, some _ => return .opened ⟨.file location, 0, false, true, false⟩

def openForWriting (machine : Machine) (path : String) (transfer : Transfer) (mayReplace : Bool) :
    Except FileError (FileTree × Opening) := do
  let files := machine.files
  let shown := machine.filesWithStreams
  let location ← shown.locate path
  let stream : Stream :=
    ⟨.file location, 0, transfer matches .append, transfer matches .update, true⟩
  match sharedStream? machine location, shown.entry? location, transfer with
  | some index, _, _ => return (files, .shared index)
  | _, some (.directory _), _ => throw .isDirectory
  | _, some (.device .terminal), _ => throw .noDevice
  | _, some (.device device), _ => return (files, .opened { stream with target := .device device })
  | _, some (.file _ mode), .replace =>
      return (files.put location (.file .empty mode), .opened stream)
  | _, some (.file _ mode), .output =>
      if mayReplace then return (files.put location (.file .empty mode), .opened stream)
      else throw .fileExists
  | _, some _, _ => return (files, .opened stream)
  | _, none, _ =>
      if Path.endsInSlash path then throw .isDirectory
      else
        let entry := FileEntry.file .empty (files.masked FileTree.plainMode)
        return (files.put location entry, .opened stream)

def openingText (missing : String) (error : FileError) : String :=
  match error with
  | .notFound | .notDirectory => missing
  | _ => error.text

def waitForContent (perform : Performer) (path : String) : Run Unit := do
  let files := (← get).files
  match files.locate (decode path), files.find (decode path) with
  | .ok location, .ok (.pipe _ _) => letOthers perform (.forContent location)
  | _, _ => return

def Opening.index : Opening → Run Nat
  | .shared index => return index
  | .opened stream => addStream stream

def openStream (perform : Performer) (transfer : Transfer) (path : String) : Run (Option Nat) := do
  match transfer with
  | .input =>
      waitForContent perform path
      match openForReading (← get) (decode path) with
      | .ok opening => return some (← opening.index)
      | .error error => do
          complain ("cannot open " ++ path ++ ": " ++ openingText "No such file" error)
          return none
  | _ =>
      let mayReplace := !(← isOn 'C')
      match openForWriting (← get) (decode path) transfer mayReplace with
      | .ok (files, opening) => do
          modify fun machine => { machine with files }
          return some (← opening.index)
      | .error error => do
          complain ("cannot create " ++ path ++ ": " ++ openingText "Directory nonexistent" error)
          return none

def Direction.apply (perform : Performer) : Direction → Run Bool
  | .open stream transfer path => do
      match ← openStream perform transfer path with
      | some index => do
          attach stream index
          return true
      | none => return false
  | .copy stream source => do
      match (← get).stream? source with
      | some (index, _) => do
          attach stream index
          return true
      | none => do
          if stream = 2 then detach 2
          complain (toString source ++ ": " ++ FileError.badStream.text)
          return false
  | .close stream => do
      detach stream
      return true
  | .text stream content => do
      attach stream (← addStream ⟨.buffer (bytesOfText content), 0, false, true, false⟩)
      return true

def applyAll (perform : Performer) : List Direction → Run Bool
  | [] => return true
  | first :: rest => do
      if ← first.apply perform then applyAll perform rest else return false

/-- Leads streams elsewhere in the order of their redirections. -/
def redirect (perform : Performer) (redirections : List Redirection) : Run Bool := do
  applyAll perform (← redirections.mapM (direction perform))

end StreamWidth.Shell
