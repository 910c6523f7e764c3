import StreamWidth.Power
import StreamWidth.Text.Digits
import StreamWidth.Shell.Utilities.Lines

/-!
Utilities that compare lines: putting them in order, and leaving out repeated ones.
-/

namespace StreamWidth.Shell

structure PlainNumber where
  digits : Int
  places : Nat

def PlainNumber.read (chars : List Char) : PlainNumber :=
  let chars := chars.dropWhile isSpace
  let (negative, chars) :=
    match chars with
    | '-' :: rest => (true, rest)
    | _ => (false, chars)
  let whole := chars.takeWhile Char.isDigit
  let places :=
    match chars.drop whole.length with
    | '.' :: rest => rest.takeWhile Char.isDigit
    | _ => []
  let digits : Int := ((Text.number? 10 (whole ++ places)).getD 0 : Nat)
  ⟨if negative then -digits else digits, places.length⟩

def PlainNumber.compare (left right : PlainNumber) : Ordering :=
  Ord.compare (left.digits * 10 ^ right.places) (right.digits * 10 ^ left.places)

def compareTexts (letters : List Char) (left right : List Char) : Ordering :=
  let fold (chars : List Char) : List Char :=
    let chars := if letters.contains 'b' then chars.dropWhile isSpace else chars
    let chars :=
      if letters.contains 'd' then chars.filter fun c => c.isAlphanum || isSpace c
      else if letters.contains 'i' then chars.filter fun c => ' ' ≤ c && c ≤ '~'
      else chars
    if letters.contains 'f' then chars.map Char.toUpper else chars
  if letters.contains 'n' then (PlainNumber.read left).compare (PlainNumber.read right)
  else Ord.compare (fold left) (fold right)

structure KeyPlace where
  field : Nat
  char : Nat

structure SortKey where
  first : KeyPlace
  last : Option KeyPlace
  letters : List Char

def placeNumber (what : String) (chars : List Char) : Except String (Nat × List Char) :=
  let digits := chars.takeWhile Char.isDigit
  match Text.number? 10 digits with
  | some number => .ok (number, chars.drop digits.length)
  | none =>
      .error (what ++ ": invalid count at start of " ++ inMarks (String.ofList chars))

def readPlace (text what : String) (isFirst : Bool) (chars : List Char) :
    Except String (KeyPlace × List Char) := do
  let wrong (cause : String) : Except String Unit :=
    .error (cause ++ ": invalid field specification " ++ inMarks text)
  let (field, rest) ← placeNumber what chars
  if field = 0 then wrong "field number is zero"
  match rest with
  | '.' :: rest => do
      let (char, rest) ← placeNumber "invalid number after '.'" rest
      if char = 0 && isFirst then wrong "character offset is zero"
      return (⟨field, char⟩, rest)
  | _ => return (⟨field, 0⟩, rest)

def orderLetters : List Char :=
  ['b', 'd', 'f', 'n', 'r', 'i']

def SortKey.parse (text : String) : Except String SortKey := do
  let (place, rest) ← readPlace text "invalid number at field start" true text.toList
  let letters := rest.takeWhile orderLetters.contains
  let (key, rest) : SortKey × List Char ←
    match rest.drop letters.length with
    | ',' :: second => do
        let (last, rest) ← readPlace text "invalid number after ','" false second
        let more := rest.takeWhile orderLetters.contains
        pure (⟨place, some last, letters ++ more⟩, rest.drop more.length)
    | rest => pure (⟨place, none, letters⟩, rest)
  if rest.isEmpty then return key
  else throw ("stray character in field spec: invalid field specification " ++ inMarks text)

/-- Fields of a line. Without a separator the blanks before a field belong to it. -/
def lineFields (separator : Option Char) (line : List Char) : List (List Char) :=
  match separator with
  | some separator => ((String.ofList line).splitToList (· == separator)).map String.toList
  | none => go line.length line
where
  go : Nat → List Char → List (List Char)
    | 0, _ => []
    | fuel + 1, chars =>
        if chars.isEmpty then []
        else
          let blanks := chars.takeWhile isBlank
          let word := (chars.drop blanks.length).takeWhile (!isBlank ·)
          (blanks ++ word) :: go fuel (chars.drop (blanks.length + word.length))
  isBlank (c : Char) : Bool := c == ' ' || c == '\t'

def SortKey.part (separator : Option Char) (skipsBlanks : Bool) (key : SortKey) (line : String) :
    List Char :=
  let fields := lineFields separator line.toList
  let between : List Char := (separator.map fun c => [c]).getD []
  let cutStart (field : List Char) : List Char :=
    (if skipsBlanks then field.dropWhile isSpace else field).drop (key.first.char - 1)
  let join (fields : List (List Char)) : List Char := between.intercalate fields
  let selected := fields.drop (key.first.field - 1)
  let closed :=
    match key.last with
    | none => selected
    | some last =>
        let kept := selected.take (last.field + 1 - key.first.field)
        if last.char = 0 then kept
        else kept.dropLast ++ (kept.getLast?.map fun field => field.take last.char).toList
  match closed with
  | [] => []
  | first :: rest => join (cutStart first :: rest)

structure SortStyle where
  keys : List SortKey
  separator : Option Char
  letters : List Char
  stable : Bool

def SortStyle.keyOrder (style : SortStyle) (key : SortKey) (left right : String) : Ordering :=
  let letters := if key.letters.isEmpty then style.letters else key.letters
  let part (line : String) : List Char := key.part style.separator (letters.contains 'b') line
  let order := compareTexts letters (part left) (part right)
  if letters.contains 'r' then order.swap else order

/-- The order of two lines by all keys, not yet by the lines as a whole. -/
def SortStyle.byKeys (style : SortStyle) (left right : String) : Ordering :=
  if style.keys.isEmpty then
    let order := compareTexts style.letters left.toList right.toList
    if style.letters.contains 'r' then order.swap else order
  else style.keys.foldl (fun order key => order.then (style.keyOrder key left right)) .eq

def SortStyle.order (style : SortStyle) (left right : String) : Ordering :=
  let whole := Ord.compare left.toList right.toList
  (style.byKeys left right).then
    (if style.stable then .eq else if style.letters.contains 'r' then whole.swap else whole)

def SortStyle.distinct (style : SortStyle) : List String → List String
  | first :: second :: rest =>
      if style.byKeys first second = .eq then style.distinct (first :: rest)
      else first :: style.distinct (second :: rest)
  | texts => texts
termination_by texts => texts.length

def SortStyle.disorder? (style : SortStyle) (unique : Bool) : Nat → List String → Option (Nat × String)
  | number, first :: second :: rest =>
      let order := style.order first second
      if order = .gt || (unique && style.byKeys first second = .eq) then some (number + 1, second)
      else style.disorder? unique (number + 1) (second :: rest)
  | _, _ => none

def incompatible? (letters : List Char) : Option String :=
  if letters.contains 'n' && ['d', 'i'].any letters.contains then
    let shown := ['d', 'f', 'i', 'n'].filter letters.contains
    some ("options '-" ++ String.ofList shown ++ "' are incompatible")
  else none

def sortStyle (arguments : Arguments) : Except String SortStyle := do
  let keys ← (arguments.given.filter (·.1 == 'k')).mapM fun (_, text) => SortKey.parse text
  let separator ←
    match (arguments.value? 't').map (resolveSeparator ·.toList) with
    | none => pure none
    | some [c] => pure (some c)
    | some [] => throw "empty tab"
    | some chars => throw ("multi-character tab " ++ inMarks (String.ofList chars))
  let letters := orderLetters.filter arguments.has
  for given in letters :: keys.map (·.letters) do
    match incompatible? given with
    | some text => throw text
    | none => pure ()
  return {
    keys
    separator
    letters
    stable := arguments.has 's' || arguments.has 'u' }
where
  resolveSeparator (chars : List Char) : List Char :=
    if chars == ['\\', '0'] then ['\x00'] else chars

/-- Reading stops at the first file that cannot be opened, or else at the first that cannot be read. -/
def sortedLines (task : Task) (operands : List String) : Except String (List String) := do
  let found := task.readAll operands
  for item in found do
    match item.2 with
    | .error .isDirectory | .ok _ => pure ()
    | .error error => throw ("cannot read: " ++ plainly item.1 error)
  return (← found.mapM linesOf).flatten
where
  linesOf (item : String × Except FileError String) : Except String (List String) :=
    match item.2 with
    | .ok text => .ok (lines text)
    | .error error => .error ("read failed: " ++ plainly item.1 error)

def brokenSort : Nat :=
  2

def sortUtility : Utility := fun task =>
  (OptionTable.of ['b', 'd', 'f', 'i', 'n', 'r', 'c', 'm', 's', 'u'] ['k', 't', 'o']
    [("reverse", 'r'), ("numeric-sort", 'n'), ("unique", 'u'), ("key", 'k'), ("field-separator", 't'),
      ("output", 'o'), ("ignore-case", 'f'), ("stable", 's'), ("check", 'c'), ("merge", 'm'),
      ("ignore-leading-blanks", 'b'), ("dictionary-order", 'd'), ("ignore-nonprinting", 'i')]).run
    brokenSort task fun arguments =>
    match sortStyle arguments, sortedLines task arguments.operands with
    | .error text, _ | _, .error text => task.ending [task.complaint text] brokenSort
    | .ok style, .ok texts =>
        let unique := arguments.has 'u'
        let used (report : Report) : Report :=
          if arguments.operands.isEmpty || arguments.operands.contains "-" then report.reading
          else report
        if arguments.has 'c' then
          match arguments.operands with
          | _ :: extra :: _ =>
              task.ending [task.complaint ("extra operand " ++ inMarks extra ++ " not allowed with -c")]
                brokenSort
          | _ =>
              match style.disorder? unique 1 texts with
              | none => used (task.ending [] 0)
              | some (number, text) =>
                  let place := arguments.operands.head?.getD "-" ++ ":" ++ toString number
                  used (task.ending [task.complaint (place ++ ": disorder: " ++ text)] 1)
        else
          let sorted := texts.mergeSort fun left right => (style.order left right).isLE
          let text := unlines (if unique then style.distinct sorted else sorted)
          match arguments.value? 'o' with
          | none => used (task.ending [.output text] 0)
          | some path => used <| task.workWith brokenSort do
              let written := (← get).files.write (decode path) (bytesOfText text)
              let _ ← Working.change task ("open failed: " ++ path) written

/-! Repeated lines. -/

def runsOf (key : String → String) (texts : List String) : List (String × Nat) :=
  (texts.foldl (fun runs text =>
    match runs with
    | (first, count) :: rest =>
        if key first == key text then (first, count + 1) :: rest else (text, 1) :: runs
    | [] => [(text, 1)]) []).reverse

def uniqUtility : Utility := fun task =>
  (OptionTable.of ['c', 'd', 'u', 'i'] []
    [("count", 'c'), ("repeated", 'd'), ("unique", 'u'), ("ignore-case", 'i')]).run 1 task fun arguments =>
    let path := arguments.operands.head?.getD "-"
    match arguments.operands.drop 2, task.readOperand path with
    | extra :: _, _ => task.misuse ("extra operand " ++ inMarks extra) 1
    | [], .error error => task.fail (plainly path error)
    | [], .ok text =>
        let key := if arguments.has 'i' then String.toLower else id
        let kept := (runsOf key (lines text)).filter fun (_, count) =>
          !(arguments.has 'd' && count = 1) && !(arguments.has 'u' && 1 < count)
        let shown := unlines (kept.map fun (line, count) =>
          if arguments.has 'c' then padLeft 7 (toString count) ++ " " ++ line else line)
        let report :=
          match arguments.operands with
          | [_, target] => task.work do
              let written := (← get).files.write (decode target) (bytesOfText shown)
              let _ ← Working.change task target written
          | _ => task.ending [.output shown] 0
        if path == "-" then report.reading else report

end StreamWidth.Shell
