import StreamWidth.Shell.Utilities.Lines
import StreamWidth.Shell.Utilities.Sed.Script

/-!
Editing lines one after the other by a script.
-/

namespace StreamWidth.Shell.Sed

/-- A line of input, with the file that it comes from. -/
structure InputLine where
  text : String
  ended : Bool
  file : String

inductive Queued
  | text (text : String)
  | file (path : String)
  | line (text : String)

/-- What has become of a range that has started. -/
inductive RangeState
  | running (last : Option Nat)
  | closed

structure State where
  lines : List InputLine
  number : Nat
  file : String
  space : String
  held : String
  ended : Bool
  heldEnded : Bool
  made : Bool
  queue : List Queued
  ranges : List (Nat × RangeState)
  lastRegex : Option Regex
  unended : Bool
  output : List String
  readers : List (String × List String)
  written : List (String × String)

abbrev Editing :=
  StateM State

structure Program where
  commands : Array Command
  silent : Bool
  files : FileTree
  ending : Char
  lineLength : Nat

/-- How the commands go on after one of them. -/
inductive Flow
  | next
  | jump (place : Nat)
  | finish (prints : Bool)
  | again
  | quit (status : Nat) (prints : Bool)
  | exhausted

namespace Editing

def put (program : Program) (text : String) : Editing Unit :=
  modify fun state =>
    let output :=
      if state.unended then String.singleton program.ending :: state.output else state.output
    { state with output := text :: output, unended := false }

def putLine (program : Program) (text : String) : Editing Unit := do
  let ended := (← get).ended
  put program (if ended then text.push program.ending else text)
  modify fun state => { state with unended := !ended }

def isLast : Editing Bool := do
  return (← get).lines.isEmpty

def regexOf (pattern : Pattern) : Editing Regex := do
  let state ← get
  let regex := (pattern.regex <|> state.lastRegex).getD .empty
  set { state with lastRegex := some regex }
  return regex

def matchesSpace (pattern : Pattern) : Editing Bool := do
  let regex ← regexOf pattern
  let space := (← get).space
  return (regex.findFrom ((regex.subject pattern.ignoreCase space.toList).inLines pattern.linewise)
    0).isSome

def matchesAddress (address : Address) : Editing Bool := do
  let number := (← get).number
  match address with
  | .line wanted => return number == wanted
  | .last => isLast
  | .step first distance =>
      return if distance = 0 then number == first
        else first ≤ number && (number - first) % distance == 0
  | .pattern pattern => matchesSpace pattern

/-- The number of the line with which a range that starts here ends, unless that has to be looked
for. -/
def lastNumber? (number : Nat) : RangeEnd → Option Nat
  | .plus count => some (number + count)
  | .multiple 0 => some number
  | .multiple count => some ((number / count + 1) * count)
  | .address (.line last) => some last
  | .address _ => none

def setRange (place : Nat) (range : RangeState) : Editing Unit :=
  modify fun state =>
    { state with ranges := (place, range) :: state.ranges.filter (·.1 != place) }

def openRange (place : Nat) (second : RangeEnd) : Editing Unit := do
  let number := (← get).number
  let last := lastNumber? number second
  let ends ←
    match second with
    | .address .last => isLast
    | _ => pure (last.any (· ≤ number))
  setRange place (if ends then .closed else .running last)

/-- Whether a line starts a range. A number that has been left out does so later, but only once. -/
def startsRange (isClosed : Bool) (first : Address) (second : RangeEnd) : Editing Bool := do
  let number := (← get).number
  match first with
  | .line wanted =>
      let isBehind :=
        match second with
        | .address (.line last) => last < number && number != wanted
        | _ => false
      return !isClosed && wanted ≤ number && !isBehind
  | _ => matchesAddress first

def inRange (place : Nat) (first : Address) (second : RangeEnd) : Editing Bool := do
  let number := (← get).number
  let range : Option RangeState := ((← get).ranges.find? (·.1 == place)).map (·.2)
  match range with
  | some (.running (some last)) => do
      if last ≤ number then setRange place .closed
      match second with
      | .address _ => return number ≤ last
      | _ => return true
  | some (.running none) => do
      let ended ←
        match second with
        | .address address => matchesAddress address
        | _ => pure false
      if ended then setRange place .closed
      return true
  | _ => do
      if ← startsRange range.isSome first second then
        openRange place second
        return true
      else return false

def selects (place : Nat) (selector : Selector) : Editing Bool := do
  let selected ←
    match selector.first, selector.second with
    | none, _ => pure true
    | some first, none => matchesAddress first
    | some first, some second => inRange place first second
  return selected != selector.negated

/-! Substitution. -/

/-- Text while it is put together, in reverse, with the casing that is in force. -/
structure Building where
  chars : List Char
  casing : Casing
  next : Casing

def Building.add (building : Building) (c : Char) : Building :=
  let all :=
    match building.casing with
    | .upper => c.toUpper
    | .lower => c.toLower
    | _ => c
  let one :=
    match building.next with
    | .upperNext => c.toUpper
    | .lowerNext => c.toLower
    | _ => all
  { building with chars := one :: building.chars, next := .plain }

def Building.change (building : Building) : Casing → Building
  | .upperNext => { building with next := .upperNext }
  | .lowerNext => { building with next := .lowerNext }
  | casing => { building with casing, next := .plain }

def groupText (subject : Regex.Subject) (found : RegexMatch) (number : Nat) : List Char :=
  if number = 0 then (subject.text.extract found.first found.last).toList
  else (subject.textOf found.groups number).getD []

def replacement (pieces : List Piece) (subject : Regex.Subject) (found : RegexMatch) : List Char :=
  let built := pieces.foldl (fun (building : Building) piece =>
    match piece with
    | .text chars => chars.foldl Building.add building
    | .group number => (groupText subject found number).foldl Building.add building
    | .casing casing => building.change casing) ⟨[], .plain, .plain⟩
  built.chars.reverse

/-- The text behind a place with its matches replaced, the first of them being the one with the
number `count`, and whether any was. An empty match right behind another one does not count. -/
def substituted (substitution : Substitution) (regex : Regex) (subject : Regex.Subject) :
    Nat → Nat → Nat → Option Nat → List Char × Bool
  | 0, place, _, _ => ((subject.text.extract place subject.text.size).toList, false)
  | fuel + 1, place, count, previous =>
      let behind (start : Nat) : List Char := (subject.text.extract start subject.text.size).toList
      match regex.findFrom subject place with
      | none => (behind place, false)
      | some found =>
          let before := (subject.text.extract place found.first).toList
          let isEmpty := found.first = found.last
          if isEmpty && previous = some found.first then
            match subject.text[found.last]? with
            | none => (before, false)
            | some c =>
                let (more, made) :=
                  substituted substitution regex subject fuel (found.last + 1) count none
                (before ++ c :: more, made)
          else
            let wanted :=
              if substitution.isGlobal then substitution.number ≤ count
              else substitution.number = count
            let whole := groupText subject found 0
            let shown := if wanted then replacement substitution.pieces subject found else whole
            if wanted && !substitution.isGlobal then (before ++ shown ++ behind found.last, true)
            else
              let (more, made) :=
                substituted substitution regex subject fuel found.last (count + 1) (some found.last)
              (before ++ shown ++ more, wanted || made)

def writeTo (program : Program) (path text : String) (ended : Bool) : Editing Unit := do
  let line := if ended then text.push program.ending else text
  if path == "/dev/stdout" then
    put program line
    modify fun state => { state with unended := !ended }
  else
    modify fun state =>
      let old := ((state.written.find? (·.1 == path)).map (·.2)).getD ""
      { state with written := (path, old ++ line) :: state.written.filter (·.1 != path) }

def substitute (program : Program) (substitution : Substitution) : Editing Unit := do
  let regex ← regexOf substitution.pattern
  let space := (← get).space
  let subject :=
    (regex.subject substitution.pattern.ignoreCase space.toList).inLines
      substitution.pattern.linewise
  let (chars, made) := substituted substitution regex subject (2 * space.length + 2) 0 1 none
  if made then
    modify fun state => { state with space := String.ofList chars, made := true }
    if substitution.prints then
      putLine program (String.ofList chars)
    match substitution.file with
    | some path => writeTo program path (String.ofList chars) (← get).ended
    | none => pure ()

/-! Other commands. -/

def shownChar (c : Char) : String :=
  match c with
  | '\\' => "\\\\"
  | '\x07' => "\\a"
  | '\x08' => "\\b"
  | '\x0c' => "\\f"
  | '\n' => "\\n"
  | '\r' => "\\r"
  | '\t' => "\\t"
  | '\x0b' => "\\v"
  | _ =>
      if ' ' ≤ c && c ≤ '~' then String.singleton c
      else
        let digits := Nat.toDigits 8 c.toNat
        "\\" ++ String.ofList (List.replicate (3 - digits.length) '0' ++ digits)

def usualLineLength : Nat :=
  70

def shownText (lineLength : Nat) (text : String) : String :=
  let (done, current) := (text.toList.map shownChar).foldl (fun (done, current) part =>
    if 0 < lineLength && lineLength ≤ current.length + part.length then (done ++ current ++ "\\\n", part)
    else (done, current ++ part)) ("", "")
  done ++ current ++ "$\n"

def splitLine (ending : Char) (text : String) : String × Option String :=
  let first := text.toList.takeWhile (· != ending)
  if first.length < text.length then
    (String.ofList first, some (String.ofList (text.toList.drop (first.length + 1))))
  else (text, none)

def flush (program : Program) : Editing Unit := do
  for queued in (← get).queue.reverse do
    match queued with
    | .text text => put program text
    | .line text => do
        put program (text.push program.ending)
    | .file path =>
        match program.files.read (decode path) with
        | .ok content =>
            unless content.isEmpty do
              put program (textOfBytes content)
        | .error _ => pure ()
  modify fun state => { state with queue := [] }

def nextLine (join : String → String → String) : Editing Bool := do
  let state ← get
  match state.lines with
  | [] => return false
  | line :: rest => do
      set { state with
        lines := rest, number := state.number + 1, file := line.file, ended := line.ended
        space := join state.space line.text }
      return true

def labelPlace (program : Program) (name : String) : Nat :=
  (program.commands.toList.findIdx? fun command =>
    match command.action with
    | .label found => found == name
    | _ => false).getD program.commands.size

def behindBlock (program : Program) : Nat → Nat → Nat → Nat
  | 0, place, _ => place
  | fuel + 1, place, depth =>
      let found : Option Command := program.commands[place]?
      match found with
      | some ⟨_, .block⟩ => behindBlock program fuel (place + 1) (depth + 1)
      | some ⟨_, .blockEnd⟩ =>
          if depth = 0 then place + 1 else behindBlock program fuel (place + 1) (depth - 1)
      | some _ => behindBlock program fuel (place + 1) depth
      | none => place

def setSpace (space : String) : Editing Unit :=
  modify fun state => { state with space }

def takeLine (program : Program) (path : String) : Editing (Option String) := do
  let state ← get
  let left :=
    match state.readers.find? (·.1 == path) with
    | some (_, left) => left
    | none =>
        match program.files.read (decode path) with
        | .ok content =>
            let parts := (textOfBytes content).splitOn (String.singleton program.ending)
            if parts.getLast? == some "" then parts.dropLast else parts
        | .error _ => []
  set { state with readers := (path, left.drop 1) :: state.readers.filter (·.1 != path) }
  return left.head?

def changeLines (program : Program) (place : Nat) (selector : Selector) (text : String) : Editing Flow := do
  let isOpen := (← get).ranges.any fun (other, range) => other == place && range matches .running _
  if selector.second.isNone || selector.negated || !isOpen then
    put program text
  return .finish false

def perform (program : Program) (place : Nat) (command : Command) : Editing Flow := do
  let state ← get
  match command.action with
  | .block | .blockEnd | .label _ => return .next
  | .branch name => return .jump (labelPlace program name)
  | .branchIf made name => do
      set { state with made := false }
      return if state.made == made then .jump (labelPlace program name) else .next
  | .substitute substitution => do
      substitute program substitution
      return .next
  | .transliterate pairs => do
      let change (c : Char) : Char := ((pairs.find? (·.1 == c)).map (·.2)).getD c
      setSpace (String.ofList (state.space.toList.map change))
      return .next
  | .append text => do
      set { state with queue := .text text :: state.queue }
      return .next
  | .insert text => do
      put program text
      return .next
  | .change text => changeLines program place command.selector text
  | .delete => return .finish false
  | .deleteLine =>
      match splitLine program.ending state.space with
      | (_, some rest) => do
          setSpace rest
          return .again
      | (_, none) => return .finish false
  | .print => do
      putLine program state.space
      return .next
  | .printLine => do
      match splitLine program.ending state.space with
      | (first, some _) => put program (first.push program.ending)
      | (all, none) => putLine program all
      return .next
  | .next => do
      if ← isLast then return .exhausted
      unless program.silent do
        putLine program state.space
      flush program
      let _ ← nextLine fun _ line => line
      return .next
  | .nextAppended => do
      if ← isLast then return .exhausted
      flush program
      let _ ← nextLine fun space line => space.push program.ending ++ line
      return .next
  | .takeHeld => do
      set { state with space := state.held, ended := state.heldEnded }
      return .next
  | .takeHeldAppended => do
      set { state with
        space := state.space.push program.ending ++ state.held, ended := state.heldEnded }
      return .next
  | .hold => do
      set { state with held := state.space, heldEnded := state.ended }
      return .next
  | .holdAppended => do
      set { state with
        held := state.held.push program.ending ++ state.space, heldEnded := state.ended }
      return .next
  | .exchange => do
      set { state with
        held := state.space, space := state.held, heldEnded := state.ended, ended := state.heldEnded }
      return .next
  | .clear => do
      setSpace ""
      return .next
  | .number => do
      put program (toString state.number ++ "\n")
      return .next
  | .show lineLength => do
      put program (shownText (lineLength.getD program.lineLength) state.space)
      return .next
  | .fileName => do
      put program (state.file ++ "\n")
      return .next
  | .quit status prints => return .quit status prints
  | .readFile path => do
      set { state with queue := .file path :: state.queue }
      return .next
  | .readLine path => do
      match ← takeLine program path with
      | some text => modify fun state => { state with queue := .line text :: state.queue }
      | none => pure ()
      return .next
  | .writeFile path => do
      writeTo program path state.space state.ended
      return .next
  | .writeLine path => do
      let (first, rest) := splitLine program.ending state.space
      writeTo program path first (rest.isSome || state.ended)
      return .next

/-- Carries out the commands from a place on. -/
def performFrom (program : Program) : Nat → Nat → Editing Flow
  | 0, _ => return .quit 1 false
  | fuel + 1, place => do
      match program.commands[place]? with
      | none => return .finish true
      | some command =>
          if ← selects place command.selector then
            match ← perform program place command with
            | .next => performFrom program fuel (place + 1)
            | .jump target => performFrom program fuel target
            | flow => return flow
          else
            match command.action with
            | .block =>
                performFrom program fuel (behindBlock program program.commands.size (place + 1) 0)
            | _ => performFrom program fuel (place + 1)

def cycleLimit : Nat :=
  100000

def finishCycle (program : Program) (prints closes : Bool) : Editing Unit := do
  if prints && !program.silent then
    putLine program (← get).space
  if closes && (← get).unended then
    put program ""
  flush program

/-- Runs cycles until the input ends; the status is the answer. -/
def cycles (program : Program) : Nat → Bool → Editing Nat
  | 0, _ => return 0
  | fuel + 1, keepsSpace => do
      let ready ← if keepsSpace then pure true else nextLine fun _ line => line
      if ready then
        modify fun state => if keepsSpace then state else { state with made := false }
        match ← performFrom program cycleLimit 0 with
        | .quit status prints => do
            if prints then finishCycle program true true
            return status
        | .exhausted => do
            finishCycle program true false
            return 0
        | .again => do
            finishCycle program false false
            cycles program fuel true
        | .finish prints => do
            finishCycle program prints false
            cycles program fuel false
        | _ => do
            finishCycle program true false
            cycles program fuel false
      else return 0

end Editing

/-! The utility. -/

def options : OptionTable where
  flags := ['n', 'E', 'r', 's', 'u', 'z', 'b']
  valued := ['e', 'f', 'l']
  names := [("line-length", 'l'), ("posix", 'b'), ("debug", 'b'), ("sandbox", 'b'),
    ("follow-symlinks", 'b'), ("zero-terminated", 'z'), ("binary", 'b'), ("quiet", 'n'),
    ("silent", 'n'), ("expression", 'e'), ("file", 'f'), ("regexp-extended", 'E'),
    ("separate", 's'), ("unbuffered", 'u'), ("null-data", 'z')]

def inPlace? (arguments : List String) : Option String :=
  arguments.findSome? fun argument =>
    match argument.toList with
    | '-' :: letters =>
      match letters.dropWhile options.flags.contains with
      | 'i' :: ending => some (String.ofList ending)
      | _ =>
        if argument == "--in-place" then some ""
        else
          let start := "--in-place=".toList
          if start.isPrefixOf argument.toList then some (String.ofList (argument.toList.drop start.length))
          else none
    | _ => none

def withoutInPlace (arguments : List String) : List String :=
  arguments.filterMap fun argument =>
    if (inPlace? [argument]).isNone then some argument
    else
      let letters := (argument.toList.drop 1).takeWhile options.flags.contains
      if letters.isEmpty then none else some (String.ofList ('-' :: letters))

/-- A piece of a script, with the file that it comes from if it is no argument. -/
structure ScriptPiece where
  text : String
  file : Option String

def scriptPieces (task : Task) (arguments : Arguments) :
    Except String (List ScriptPiece × List String) := do
  let given ← arguments.given.filterMapM fun (letter, text) =>
    if letter == 'e' then .ok (some ⟨text, none⟩)
    else if letter == 'f' then
      match task.readOperand text with
      | .ok content =>
          let chars := content.toList
          let content := if chars.getLast? == some '\n' then String.ofList chars.dropLast else content
          .ok (some ⟨content, some text⟩)
      | .error error => .error ("couldn't open file " ++ text ++ ": " ++ error.text)
    else .ok none
  if arguments.has 'e' || arguments.has 'f' then return (given, arguments.operands)
  else return ((arguments.operands.take 1).map (⟨·, none⟩), arguments.operands.drop 1)

def placeText (pieces : List ScriptPiece) (place : ScriptPlace) : String :=
  let arguments := (pieces.take (place.piece + 1)).countP (·.file.isNone)
  match pieces[place.piece]? with
  | some ⟨text, some file⟩ =>
      let lines := (text.toList.take (place.count - 1)).count '\n' + 1
      "file " ++ file ++ " line " ++ toString lines
  | _ => "-e expression #" ++ toString arguments ++ ", char " ++ toString place.count

def missingLabel? (commands : List Command) : Option String :=
  commands.findSome? fun command =>
    match command.action with
    | .branch name | .branchIf _ name =>
        if name.isEmpty || commands.any fun other =>
            match other.action with
            | .label found => found == name
            | _ => false
        then none
        else some name
    | _ => none

def inputLines (ending : Char) (file text : String) : List InputLine :=
  let parts := text.splitOn (String.singleton ending)
  let whole : List InputLine := parts.dropLast.map (⟨·, true, file⟩)
  match parts.getLast? with
  | some "" | none => whole
  | some last => whole ++ [⟨last, false, file⟩]

def openFromStart (program : Program) : List (Nat × RangeState) :=
  program.commands.toList.zipIdx.filterMap fun (command, place) =>
    match command.selector.first with
    | some (.line 0) => some (place, .running none)
    | _ => none

def start (program : Program) (input : List InputLine) : State where
  lines := input
  number := 0
  file := "-"
  space := ""
  held := ""
  ended := true
  heldEnded := true
  made := false
  queue := []
  ranges := openFromStart program
  lastRegex := none
  unended := false
  output := []
  readers := []
  written := []

def outputPaths (commands : List Command) : List String :=
  commands.filterMap fun command =>
    match command.action with
    | .writeFile path | .writeLine path => some path
    | .substitute substitution => substitution.file
    | _ => none

def writeAll (task : Task) (paths : List String) (written : List (String × String)) :
    Working Unit := do
  for path in paths.eraseDups.filter (· != "/dev/stdout") do
    let text := ((written.find? (·.1 == path)).map (·.2)).getD ""
    let result := (← get).files.write (decode path) (bytesOfText text)
    let _ ← Working.change task ("couldn't open file " ++ path) result

structure Edited where
  text : String
  status : Nat
  unread : List InputLine

def edit (task : Task) (program : Program) (input : List InputLine) : Working Edited := do
  let program := { program with files := (← get).files }
  let (status, state) := (Editing.cycles program (input.length + 100000) false).run (start program input)
  writeAll task (outputPaths program.commands.toList) state.written
  return ⟨String.join state.output.reverse, status, state.lines⟩

def complainOf (task : Task) (path : String) (error : FileError) : Working Unit :=
  match error with
  | .isDirectory =>
      Working.complain task ("couldn't edit " ++ path ++ ": not a regular file")
  | _ => Working.complain task ("can't read " ++ path ++ ": " ++ error.text)

def editInPlace (task : Task) (program : Program) (ending : String) (operands : List String) :
    Working Unit := do
  for path in operands do
    match (← get).files.read (decode path) with
    | .error error => complainOf task path error
    | .ok content => do
        let edited ← edit task program (inputLines program.ending path (textOfBytes content))
        unless ending.isEmpty do
          let _ ← Working.change task path ((← get).files.write (decode (path ++ ending)) content)
        let _ ← Working.change task path ((← get).files.write (decode path) (bytesOfText edited.text))

def brokenStatus : Nat :=
  4

def unreadStatus : Nat :=
  2

def beforeDirectory (given : List (String × Except FileError String)) :
    List (String × Except FileError String) × Option String :=
  let isDirectory (item : String × Except FileError String) : Bool :=
    item.2 matches .error .isDirectory
  (given.takeWhile (!isDirectory ·), (given.find? isDirectory).map (·.1))

def InputLine.full (ending : Char) (line : InputLine) : String :=
  if line.ended then line.text.push ending else line.text

def editAll (task : Task) (program : Program) (separate : Bool) (operands : List String) : Report :=
  let (given, directory?) := beforeDirectory (task.readAll operands)
  let texts := given.map fun (path, text) => inputLines program.ending path (text.toOption.getD "")
  let groups := if separate then texts else [texts.flatten]
  let action : Working Edited := do
    for (path, text) in given do
      match text with
      | .ok _ => pure ()
      | .error error => Working.complain task ("can't read " ++ path ++ ": " ++ error.text)
    let mut last : Edited := ⟨"", 0, []⟩
    for group in groups do
      last ← edit task program group
      Working.put last.text
    match last.unread, directory? with
    | [], some path => do
        Working.complain task ("read error on " ++ (if path == "-" then "stdin" else path) ++ ": " ++
          FileError.isDirectory.text)
        return { last with status := brokenStatus }
    | _, _ => return last
  let (last, work) := action.run ⟨task.files, [], false⟩
  let status := if last.status != 0 then last.status else if work.failed then unreadStatus else 0
  let report : Report :=
    (⟨work.said.reverse, status, work.files, task.input⟩ : Report).complaintsFirst
  if operands.isEmpty && task.inputIsFile then
    { report with unread := String.join (last.unread.map (InputLine.full program.ending)) }
  else if operands.isEmpty || operands.contains "-" then report.reading
  else report

def usage (task : Task) : Report :=
  task.ending
    [.complaint ("Usage: " ++ task.name ++
      " [OPTION]... \x7bscript-only-if-no-other-script\x7d [input-file]...\n")] 1

def utility : Utility := fun task =>
  let place := inPlace? task.arguments
  let task := { task with arguments := withoutInPlace task.arguments }
  match options.read task.arguments with
  | .error text =>
      let report := usage task
      { report with said := task.complaint text :: report.said }
  | .ok arguments =>
      match scriptPieces task arguments with
      | .error text => task.ending [task.complaint text] brokenStatus
      | .ok ([], _) => usage task
      | .ok (pieces, operands) =>
          let extended := arguments.has 'E' || arguments.has 'r'
          let script := pieces.map (·.text.toList)
          let isQuiet := (script.headD []).takeWhile (· != '\n') == ['#', 'n']
          match readScript extended script with
          | .error error => task.fail (placeText pieces error.place ++ ": " ++ error.text)
          | .ok commands =>
              match missingLabel? commands with
              | some name =>
                  task.ending [task.complaint ("can't find label for jump to \x60" ++ name ++ "'")]
                    brokenStatus
              | none =>
                  let program : Program := {
                    commands := commands.toArray
                    silent := arguments.has 'n' || isQuiet
                    files := task.files
                    ending := if arguments.has 'z' then '\x00' else '\n'
                    lineLength :=
                      ((arguments.value? 'l').bind (·.toNat?)).getD Editing.usualLineLength }
                  match place with
                  | some ending => task.workWith brokenStatus (editInPlace task program ending operands)
                  | none => editAll task program (arguments.has 's') operands

end StreamWidth.Shell.Sed
