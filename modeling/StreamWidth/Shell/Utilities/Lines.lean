import StreamWidth.Shell.Escapes
import StreamWidth.Shell.Utilities.Task

/-!
Utilities that pass on lines of files: all of them, some of them, or their number.
-/

namespace StreamWidth.Shell

def fullLines (text : String) : List String :=
  let parts := text.splitOn "\n"
  let ended := (parts.dropLast).map fun part => part ++ "\n"
  match parts.getLast? with
  | some "" | none => ended
  | some last => ended ++ [last]

def Task.forTexts (task : Task) (operands : List String) (describe : String → FileError → String)
    (action : String → String → Working Unit) : Working Unit := do
  for (path, text) in task.readAll operands do
    match text with
    | .ok text => action path text
    | .error error => Working.complain task (describe path error)

def plainly (path : String) (error : FileError) : String :=
  shownName path ++ ": " ++ error.text

def inputName (path : String) : String :=
  if path == "-" then "standard input" else path

def asOpened (path : String) (error : FileError) : String :=
  match error with
  | .isDirectory => "error reading " ++ nameInMarks (inputName path) ++ ": " ++ error.text
  | _ => "cannot open " ++ nameInMarks path ++ " for reading: " ++ error.text

def padLeft (width : Nat) (text : String) : String :=
  String.ofList (List.replicate (width - text.length) ' ') ++ text

/-! Whole files. -/

def visibleChar (c : Char) : String :=
  let basic (c : Char) : String :=
    if c < ' ' then "^" ++ String.singleton (Char.ofNat (c.toNat + 64))
    else if c = '\x7f' then "^?"
    else String.singleton c
  if c.toNat < 128 then basic c else "M-" ++ basic (Char.ofNat (c.toNat - 128))

structure CatStyle where
  number : Bool
  numberFilled : Bool
  squeeze : Bool
  ends : Bool
  tabs : Bool
  visible : Bool

def CatStyle.line (style : CatStyle) (line : String) : String :=
  String.join (line.toList.map fun c =>
    if c = '\n' then (if style.ends then "$\n" else "\n")
    else if c = '\t' then (if style.tabs then "^I" else "\t")
    else if style.visible then visibleChar c
    else String.singleton c)

/-- Lines in the style, with the number of the last one and whether that was empty. -/
def CatStyle.lines (style : CatStyle) (state : Nat × Bool) : List String → List String × (Nat × Bool)
  | [] => ([], state)
  | line :: rest =>
      let isEmpty := line == "\n"
      if style.squeeze && isEmpty && state.2 then style.lines state rest
      else
        let counted := if style.numberFilled then !isEmpty else style.number
        let number := if counted then state.1 + 1 else state.1
        let lead := if counted then padLeft 6 (toString number) ++ "\t" else ""
        let (more, state) := style.lines (number, isEmpty) rest
        ((lead ++ style.line line) :: more, state)

def catUtility : Utility := fun task =>
  (OptionTable.of ['A', 'b', 'e', 'E', 'n', 's', 't', 'T', 'u', 'v'] []
    [("show-all", 'A'), ("number-nonblank", 'b'), ("show-ends", 'E'), ("number", 'n'),
      ("squeeze-blank", 's'), ("show-tabs", 'T'), ("show-nonprinting", 'v')]).run 1 task fun arguments =>
    let style : CatStyle := {
      number := arguments.has 'n'
      numberFilled := arguments.has 'b'
      squeeze := arguments.has 's'
      ends := ['A', 'e', 'E'].any arguments.has
      tabs := ['A', 't', 'T'].any arguments.has
      visible := ['A', 'e', 't', 'v'].any arguments.has }
    let operands := if arguments.operands.isEmpty then ["-"] else arguments.operands
    let report := task.work do
      let mut state := (0, false)
      for (path, text) in task.readAll operands do
        match text with
        | .ok text => do
            let (lines, next) := style.lines state (fullLines text)
            state := next
            Working.put (String.join lines)
        | .error error => Working.complain task (plainly path error)
      if operands.contains "-" && task.inputFailure == some .badStream then
        Working.complain task ("closing standard input: " ++ FileError.badStream.text)
    if operands.contains "-" then report.reading else report

def teeUtility : Utility := fun task =>
  (OptionTable.of ['a', 'i', 'p'] [] [("append", 'a'), ("ignore-interrupts", 'i')]).run 1 task
    fun arguments =>
      (task.work do
        for path in arguments.operands do
          let files := (← get).files
          let old :=
            if arguments.has 'a' then (files.read (decode path)).toOption.getD .empty else .empty
          let written := files.write (decode path) (old ++ bytesOfText task.input)
          let _ ← Working.change task (shownName path) written
        Working.put task.input).reading

/-! The first and the last lines. -/

def scaledNumber? (text : String) : Option Nat :=
  let digits := text.toList.takeWhile Char.isDigit
  let factor? : Option Nat :=
    match String.ofList (text.toList.drop digits.length) with
    | "" => some 1
    | "b" => some 512
    | "kB" | "KB" => some 1000
    | "k" | "K" | "KiB" => some 1024
    | "MB" => some 1000000
    | "m" | "M" | "MiB" => some (1024 * 1024)
    | _ => none
  match Text.number? 10 digits, factor? with
  | some value, some factor => some (value * factor)
  | _, _ => none

/-- How much is taken of a text, counted from its start or from its end. -/
structure Amount where
  bytes : Bool
  count : Nat
  sign : Option Char

def Amount.parse? (bytes : Bool) (text : String) : Option Amount :=
  match text.toList with
  | '-' :: rest => (scaledNumber? (String.ofList rest)).map fun count => ⟨bytes, count, some '-'⟩
  | '+' :: rest => (scaledNumber? (String.ofList rest)).map fun count => ⟨bytes, count, some '+'⟩
  | _ => (scaledNumber? text).map fun count => ⟨bytes, count, none⟩

def Amount.pieces (amount : Amount) (text : String) : List String :=
  if amount.bytes then text.toList.map String.singleton else fullLines text

def Amount.head (amount : Amount) (text : String) : String :=
  let pieces := amount.pieces text
  let count := if amount.sign = some '-' then pieces.length - amount.count else amount.count
  String.join (pieces.take count)

def Amount.tail (amount : Amount) (text : String) : String :=
  let pieces := amount.pieces text
  let dropped := if amount.sign = some '+' then amount.count - 1 else pieces.length - amount.count
  String.join (pieces.drop dropped)

def withCountLetter (signs : List Char) (arguments : List String) : List String :=
  match arguments with
  | first :: rest =>
      match first.toList with
      | sign :: digit :: _ =>
          if signs.contains sign && digit.isDigit then
            let count := String.ofList (if sign == '-' then first.toList.drop 1 else first.toList)
            "-n" :: count :: rest
          else arguments
      | _ => arguments
  | [] => []

def titled (isFirst : Bool) (path : String) : String :=
  (if isFirst then "" else "\n") ++ "==> " ++ (if path == "-" then "standard input" else path) ++
    " <==\n"

def partsOf (task : Task) (arguments : Arguments) (take : String → String) : Report :=
  let operands := if arguments.operands.isEmpty then ["-"] else arguments.operands
  let named := arguments.has 'v' || (1 < operands.length && !arguments.has 'q')
  let report := task.work do
    let mut isFirst := true
    for (path, text) in task.readAll operands do
      match text with
      | .ok text => do
          if named then
            Working.put (titled isFirst path)
          isFirst := false
          Working.put (take text)
      | .error error => do
          if named && error = .isDirectory then
            Working.put (titled isFirst path)
            isFirst := false
          Working.complain task (asOpened path error)
  if operands.contains "-" then report.reading else report

def partOptions : OptionTable :=
  .of ['q', 'v'] ['n', 'c']
    [("lines", 'n'), ("bytes", 'c'), ("quiet", 'q'), ("silent", 'q'), ("verbose", 'v')]

def wantedAmount (arguments : Arguments) : Except String Amount :=
  match arguments.given.reverse.find? fun item => item.1 == 'n' || item.1 == 'c' with
  | none => .ok ⟨false, 10, none⟩
  | some (letter, text) =>
      match Amount.parse? (letter == 'c') text with
      | some amount => .ok amount
      | none =>
          .error ("invalid number of " ++ (if letter == 'c' then "bytes" else "lines") ++ ": " ++
            inMarks text)

def headUtility : Utility := fun task =>
  let task := { task with arguments := withCountLetter ['-'] task.arguments }
  partOptions.run 1 task fun arguments =>
    match wantedAmount arguments with
    | .error text => task.fail text
    | .ok amount =>
        let report := partsOf task arguments amount.head
        if arguments.operands.isEmpty && task.inputIsFile then
          let taken := (amount.head task.input).length
          { report with unread := String.ofList (task.input.toList.drop taken) }
        else report

def tailUtility : Utility := fun task =>
  let task := { task with arguments := withCountLetter ['-', '+'] task.arguments }
  partOptions.run 1 task fun arguments =>
    match wantedAmount arguments with
    | .error text => task.fail text
    | .ok amount => partsOf task arguments amount.tail

/-! Counting. -/

def isSpace (c : Char) : Bool :=
  c == ' ' || ('\t' ≤ c && c ≤ '\r')

structure Counts where
  lines : Nat
  words : Nat
  bytes : Nat
  longest : Nat

def longestLine (text : String) : Nat :=
  let (most, last) := text.toList.foldl
    (fun (most, column) c =>
      if c == '\n' || c == '\r' || c == '\x0c' then (max most column, 0)
      else if c == '\t' then (most, column + (8 - column % 8))
      else if ' ' ≤ c && c ≤ '~' then (most, column + 1)
      else (most, column)) (0, 0)
  max most last

def Counts.ofText (text : String) : Counts :=
  let chars := text.toList
  { lines := chars.count '\n'
    words := ((text.splitToList isSpace).filter (!·.isEmpty)).length
    bytes := chars.length
    longest := longestLine text }

def Counts.add (left right : Counts) : Counts :=
  ⟨left.lines + right.lines, left.words + right.words, left.bytes + right.bytes,
    max left.longest right.longest⟩

def Counts.columns (counts : Counts) (letters : List Char) : List Nat :=
  (if letters.contains 'l' then [counts.lines] else []) ++
    (if letters.contains 'w' then [counts.words] else []) ++
    (if letters.contains 'm' then [counts.bytes] else []) ++
    (if letters.contains 'c' then [counts.bytes] else []) ++
    (if letters.contains 'L' then [counts.longest] else [])

def Counts.show (counts : Counts) (letters : List Char) (width : Nat) (path : Option String) :
    String :=
  let columns := (counts.columns letters).map fun count => padLeft width (toString count)
  " ".intercalate (columns ++ path.toList) ++ "\n"

def pipeWidth : Nat :=
  7

/-- Columns are as wide as the size of all files together. -/
def countWidth (task : Task) (operands : List String) (letters : List Char) : Nat :=
  if letters.length ≤ 1 && operands.length ≤ 1 then 1
  else
    let paths := if operands.isEmpty then ["-"] else operands
    let unsized := paths.any fun path =>
      if path == "-" then !task.inputIsFile || task.inputFailure.isSome
      else
        match task.find path with
        | .ok (.file _ _) | .error _ => false
        | _ => true
    let size := total (paths.map fun path => ((task.readOperand path).toOption.getD "").length)
    max (toString size).length (if unsized then pipeWidth else 1)

def wcUtility : Utility := fun task =>
  (OptionTable.of ['c', 'm', 'l', 'L', 'w'] []
    [("bytes", 'c'), ("chars", 'm'), ("lines", 'l'), ("max-line-length", 'L'), ("words", 'w')]).run
    1 task fun arguments =>
    let given := (arguments.given.map (·.1)).eraseDups
    let letters := if given.isEmpty then ['l', 'w', 'c'] else given
    let operands := arguments.operands
    let width := countWidth task operands letters
    let report := task.work do
      let mut total : Counts := ⟨0, 0, 0, 0⟩
      for (path, text) in task.readAll operands do
        let name := if operands.isEmpty then none else some path
        match text with
        | .ok text => do
            let counts := Counts.ofText text
            total := total.add counts
            Working.put (counts.show letters width name)
        | .error error => do
            let shown := if path == "-" then nameInMarks (inputName path) else shownName path
            Working.complain task
              (if path.isEmpty then "invalid zero-length file name" else shown ++ ": " ++ error.text)
            if error = .isDirectory then
              Working.put ((⟨0, 0, 0, 0⟩ : Counts).show letters width name)
      if 1 < operands.length then
        Working.put (total.show letters width (some "total"))
    if operands.isEmpty || operands.contains "-" then report.reading else report

end StreamWidth.Shell
