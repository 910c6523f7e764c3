import StreamWidth.Dictionary
import StreamWidth.Files.Tree
import StreamWidth.Power
import StreamWidth.Shell.Bytes
import StreamWidth.Shell.Command
import StreamWidth.Shell.Limits
import StreamWidth.Text.Digits

/-!
What a script acts on: the files, the streams that are open, the process that runs it, and those in
the background. Processes share the files and the streams, and time passes for all of them.
-/

namespace StreamWidth.Shell

inductive Target
  | device (device : Device)
  | file (location : Location)
  | buffer (content : ByteArray)

/-- An open stream. Those who share it share its offset. -/
structure Stream where
  target : Target
  offset : Nat
  appends : Bool
  readable : Bool
  writable : Bool

structure Variable where
  value : Option String
  exported : Bool
  readOnly : Bool

/-- A process in the background as its parent knows it: by a small number, and by its own. Once it
has been waited for the small number may be given away. -/
structure Child where
  slot : Nat
  number : Nat
  isWaited : Bool

structure OptionPlace where
  next : Nat
  offset : Option Nat

def OptionPlace.first : OptionPlace :=
  ⟨1, none⟩

/-- A process that runs commands. Streams are known to it by small numbers. -/
structure Process where
  name : String
  arguments : List String
  bindings : Dictionary Variable
  functions : List (String × Command)
  aliases : List (String × String)
  options : List Char
  /-- What to do when a signal comes, or at the end, which counts as the signal 0. -/
  traps : List (Nat × String)
  streams : List (Nat × Nat)
  status : Nat
  line : Nat
  builtin : Option String
  documents : List (Nat × ShellWord)
  locals : List (List (String × Option Variable))
  loopDepth : Nat
  substituted : Nat
  optionPlace : OptionPlace
  number : Nat
  isCopy : Bool
  ancestors : List Nat
  directory : String
  latest : Option Nat
  children : List Child
  ignored : List Nat
  limits : List Limit
  remembered : List String

/-- What a process in the background has still to do. -/
inductive Frame
  | run (tested : Bool) (command : Command)
  | next (wanted tested : Bool) (command : Command)
  | choose (tested : Bool) (consequent alternative : List Command)
  | decide (wanted tested : Bool) (test body : List Command) (last : Nat)
  | again (wanted tested : Bool) (test body : List Command)
  | each (tested : Bool) (name : String) (values : List String) (body : List Command)

/-- A process in the background. It goes on when those in front of it wait. -/
structure Companion where
  number : Nat
  process : Process
  workingDirectory : Location
  mask : Nat
  frames : List Frame
  wake : Nat
  signals : List Nat
  status : Option Nat
  stopped : Option Nat
  isKnown : Bool

/-- A time after which a signal comes to the processes of a group. -/
structure Deadline where
  time : Nat
  signal : Nat
  number : Nat
  isPast : Bool

structure Machine where
  files : FileTree
  opened : Array Stream
  process : Process
  nextNumber : Nat
  clock : Nat
  deadlines : List Deadline
  companions : List Companion
  interruption : Option Nat
  sent : List (Nat × Nat)

/-- Why commands are left before their end. -/
inductive Interrupt
  | exit
  | refused
  | loop (levels : Nat) (again : Bool)
  | giveBack
  | killed (signal : Nat) (group : Option Nat)
  | exhausted

abbrev Run :=
  ExceptT Interrupt (StateM Machine)

def getProcess : Run Process :=
  return (← get).process

def modifyProcess (change : Process → Process) : Run Unit :=
  modify fun machine => { machine with process := change machine.process }

def setStatus (status : Nat) : Run Unit :=
  modifyProcess fun process => { process with status }

def isOn (option : Char) : Run Bool :=
  return (← getProcess).options.contains option

/-- How much of a buffer may wait for a reader. A writer that goes on is stopped. -/
def bufferLimit : Nat :=
  1000000

def brokenPipe : Nat :=
  13

def overwrite (content : ByteArray) (offset : Nat) (text : ByteArray) : ByteArray :=
  let padding : ByteArray := ⟨Array.replicate (offset - content.size) 0⟩
  content.extract 0 offset ++ padding ++ text ++
    content.extract (offset + text.size) content.size

namespace Machine

def stream? (machine : Machine) (number : Nat) : Option (Nat × Stream) := do
  let index ← (machine.process.streams.find? (·.1 == number)).map (·.2)
  return (index, ← machine.opened[index]?)

def putStream (machine : Machine) (index : Nat) (stream : Stream) : Machine :=
  { machine with opened := machine.opened.setIfInBounds index stream }

def streamDirectory : Location :=
  ["proc", "self", "fd"]

def pathText (location : Location) : String :=
  "/" ++ "/".intercalate (location.map encode)

def streamEntry (stream : Stream) : FileEntry :=
  match stream.target with
  | .file location => .link ("/" ++ "/".intercalate location)
  | .device .null => .link "/dev/null"
  | .device device => .device device
  | .buffer content =>
      .pipe (if stream.readable then content.extract stream.offset content.size else .empty) 0o600

def filesWithStreams (machine : Machine) : FileTree :=
  let streams := machine.process.streams.filterMap fun (number, index) =>
    (machine.opened[index]?).map fun stream =>
      (streamDirectory ++ [toString number], streamEntry stream)
  { machine.files with entries := streams ++ machine.files.entries }

def withoutStreams (files : FileTree) : FileTree :=
  { files with
    entries := files.entries.filter fun item =>
      !(streamDirectory.isPrefixOf item.1 && item.1 != streamDirectory) }

def streamNumber? (location : Location) : Option Nat :=
  if location.dropLast == streamDirectory then (location.getLast?).bind (·.toNat?) else none

/-- The bytes that are still to be read from a stream. -/
def pending (machine : Machine) (stream : Stream) : Except FileError ByteArray :=
  match stream.target with
  | .device device => Device.read device
  | .buffer content => .ok (content.extract stream.offset content.size)
  | .file location =>
      match machine.files.entry? location with
      | some (.file content _) => .ok (content.extract stream.offset content.size)
      | some (.pipe content _) => .ok content
      | some (.directory _) => .error .isDirectory
      | _ => .ok .empty

def store (machine : Machine) (index : Nat) (stream : Stream) (text : ByteArray) :
    Except FileError Machine :=
  match stream.target with
  | .device device => do
      Device.take device
      return machine
  | .buffer content =>
      .ok (machine.putStream index { stream with target := .buffer (content ++ text) })
  | .file location =>
      match machine.files.entry? location with
      | some (.file content mode) =>
          let offset := if stream.appends then content.size else stream.offset
          let written := overwrite content offset text
          let machine := machine.putStream index { stream with offset := offset + text.size }
          .ok { machine with files := machine.files.put location (.file written mode) }
      | some (.pipe content mode) =>
          .ok { machine with files := machine.files.put location (.pipe (content ++ text) mode) }
      | _ => .ok machine

def skip (machine : Machine) (index : Nat) (stream : Stream) (count : Nat) : Machine :=
  match stream.target with
  | .device _ => machine
  | .buffer _ => machine.putStream index { stream with offset := stream.offset + count }
  | .file location =>
      match machine.files.entry? location with
      | some (.pipe content mode) =>
          let rest := content.extract count content.size
          { machine with files := machine.files.put location (.pipe rest mode) }
      | _ => machine.putStream index { stream with offset := stream.offset + count }

end Machine

def writeTo (number : Nat) (text : String) : Run (Except FileError Unit) := do
  let machine ← get
  match machine.stream? number with
  | some (index, stream) =>
      if !stream.writable then return .error .badStream
      else
        match machine.store index stream (bytesOfText text), stream.target with
        | .error error, _ => return if text.isEmpty then .ok () else .error error
        | .ok machine, .buffer content => do
            set machine
            if bufferLimit < content.size then
              throw (.killed brokenPipe none)
            return .ok ()
        | .ok machine, _ => do
            set machine
            return .ok ()
  | none => return .error .badStream

def write (number : Nat) (text : String) : Run Bool :=
  return (← writeTo number text).isOk

def writeError (text : String) : Run Unit := do
  let _ ← write 2 text

def complain (text : String) : Run Unit := do
  let process ← getProcess
  let builtin := (process.builtin.map fun name => name ++ ": ").getD ""
  writeError (process.name ++ ": " ++ toString process.line ++ ": " ++ builtin ++ text ++ "\n")

def brokenStatus : Nat :=
  2

def refuse {α : Type} (text : String) : Run α := do
  complain text
  setStatus brokenStatus
  throw .refused

def unread (number : Nat) : Run (Except FileError String) := do
  let machine ← get
  match machine.stream? number with
  | some (_, stream) =>
      if stream.readable then return (machine.pending stream).map textOfBytes
      else return .error .badStream
  | none => return .error .badStream

def consume (number count : Nat) : Run Unit :=
  modify fun machine =>
    match machine.stream? number with
    | some (index, stream) => machine.skip index stream count
    | none => machine

def addStream (stream : Stream) : Run Nat := do
  let machine ← get
  set { machine with opened := machine.opened.push stream }
  return machine.opened.size

def attach (number index : Nat) : Run Unit :=
  modifyProcess fun process =>
    { process with streams := (number, index) :: process.streams.filter (·.1 != number) }

def detach (number : Nat) : Run Unit :=
  modifyProcess fun process =>
    { process with streams := process.streams.filter (·.1 != number) }

def keepingStreams {α : Type} (action : Run α) : Run α := do
  let streams := (← getProcess).streams
  try action
  finally modifyProcess fun process => { process with streams }

/-- What is written to the output in the meantime. The action is given the place of the stream. -/
def capturing {α : Type} (action : Nat → Run α) : Run (α × String) := do
  let index ← addStream ⟨.buffer .empty, 0, true, true, true⟩
  let value ← keepingStreams do
    attach 1 index
    action index
  match (← get).opened[index]? with
  | some ⟨.buffer content, _, _, _, _⟩ => return (value, textOfBytes content)
  | _ => return (value, "")

def withInput {α : Type} (target : Target) (action : Run α) : Run α := do
  let index ← addStream ⟨target, 0, false, true, false⟩
  keepingStreams do
    attach 0 index
    action

/-! Variables. -/

def lookUp (name : String) : Run (Option String) :=
  return ((← getProcess).bindings.get? name).bind (·.value)

def isReadOnly (name : String) : Run Bool :=
  return (((← getProcess).bindings.get? name).map (·.readOnly)).getD false

def putVariable (name : String) (content : Variable) : Run Unit :=
  modifyProcess fun process => { process with bindings := process.bindings.insert name content }

def changeVariable (name : String) (change : Variable → Variable) : Run Unit := do
  putVariable name (change (((← getProcess).bindings.get? name).getD ⟨none, false, false⟩))

def unsignedNumber? (text : String) : Option Nat :=
  let isSpace (c : Char) : Bool := c == ' ' || ('\t' ≤ c && c ≤ '\r')
  let chars := ((text.toList.dropWhile isSpace).reverse.dropWhile isSpace).reverse
  match chars with
  | '+' :: digits => Text.number? 10 digits
  | '-' :: digits => (Text.number? 10 digits).filter (· == 0)
  | digits => Text.number? 10 digits

def smallNumber (text : String) : Run Nat := do
  match (unsignedNumber? text).filter (· < 2 ^ 31) with
  | some value => return value
  | none => refuse ("Illegal number: " ++ text)

def noticeValue (name value : String) : Run Unit := do
  if name == "OPTIND" then
    let next ← smallNumber value
    modifyProcess fun process => { process with optionPlace := ⟨max next 1, none⟩ }
  if name == "PATH" then
    modifyProcess fun process => { process with remembered := [] }

def assign (name value : String) : Run Unit := do
  if ← isReadOnly name then refuse (name ++ ": is read only")
  noticeValue name value
  let exportAll ← isOn 'a'
  changeVariable name fun old =>
    { old with value := some value, exported := old.exported || exportAll }

def restoreVariable (name : String) (old : Option Variable) : Run Unit := do
  match old with
  | some content => do
      putVariable name content
      noticeValue name (content.value.getD "1")
  | none => modifyProcess fun process => { process with bindings := process.bindings.erase name }

def tablePlace (size : Nat) (name : String) : Nat :=
  match charsOfBytes (bytesOfText name) with
  | [] => 0
  | first :: rest => ((first :: rest).foldl (fun sum c => sum + c.toNat) (first.toNat * 16)) % size

def tableSize : Nat :=
  39

/-- Names in the order in which tables hold them. -/
def inTableOrder {α : Type} (items : List (String × α)) : List (String × α) :=
  items.mergeSort fun left right => tablePlace tableSize left.1 ≤ tablePlace tableSize right.1

def Process.environment (process : Process) : List (String × String) :=
  inTableOrder <| process.bindings.entries.filterMap fun (name, content) =>
    if content.exported then content.value.map fun value => (name, value) else none

def separators : Run (List Char) :=
  return ((← lookUp "IFS").getD " \t\n").toList

end StreamWidth.Shell
