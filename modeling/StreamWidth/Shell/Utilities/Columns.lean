import StreamWidth.Shell.Glob
import StreamWidth.Shell.Utilities.Lines

/-!
Utilities that work within lines: parts of them, and other characters.
-/

namespace StreamWidth.Shell

/-! Parts of lines. -/

/-- Positions from `first` to `last`, to the end if there is no last one. -/
structure Span where
  first : Nat
  last : Option Nat

def Span.contains (span : Span) (position : Nat) : Bool :=
  span.first ≤ position && span.last.all (position ≤ ·)

def readSpans (word text : String) : Except String (List Span) :=
  (text.splitToList fun c => c == ',' || c == ' ' || c == '\t').mapM fun part => do
    let invalid := "invalid " ++ word ++ " " ++ inMarks part
    let zero := if word == "field value" then "fields are numbered from 1"
      else "byte/character positions are numbered from 1"
    let number (text : String) : Except String Nat :=
      match text.toNat? with
      | some 0 => .error zero
      | some value => if text.toList.all Char.isDigit then .ok value else .error invalid
      | none => .error invalid
    match part.splitOn "-" with
    | [single] => do
        let value ← number single
        return ⟨value, some value⟩
    | ["", ""] => throw "invalid range with no endpoint: -"
    | [first, ""] => return ⟨← number first, none⟩
    | ["", last] => return ⟨1, some (← number last)⟩
    | [first, last] => do
        let first ← number first
        let last ← number last
        if last < first then throw "invalid decreasing range"
        return ⟨first, some last⟩
    | _ => throw invalid

def select {α : Type} (spans : List Span) (complement : Bool) (values : List α) : List α :=
  (values.zipIdx 1).filterMap fun (value, position) =>
    if (spans.any (·.contains position)) != complement then some value else none

structure CutStyle where
  spans : List Span
  complement : Bool
  delimiter : Option Char
  joiner : Option String
  onlyDelimited : Bool

def CutStyle.line (style : CutStyle) (line : String) : Option String :=
  match style.delimiter with
  | none => some (String.ofList (select style.spans style.complement line.toList))
  | some delimiter =>
      let fields := line.splitToList (· == delimiter)
      if fields.length ≤ 1 then if style.onlyDelimited then none else some line
      else
        some ((style.joiner.getD (String.singleton delimiter)).intercalate
          (select style.spans style.complement fields))

def cutOptions : OptionTable :=
  .of ['n', 's', 'C'] ['b', 'c', 'f', 'd', 'O']
    [("bytes", 'b'), ("characters", 'c'), ("fields", 'f'), ("delimiter", 'd'), ("only-delimited", 's'),
      ("complement", 'C'), ("output-delimiter", 'O')]

def cutStyle (arguments : Arguments) : Except String CutStyle := do
  let lists := arguments.given.filter fun item => ['b', 'c', 'f'].contains item.1
  match lists with
  | [] => throw "you must specify a list of bytes, characters, or fields"
  | _ :: _ :: _ => throw "only one list may be specified"
  | [(letter, text)] => do
      let isField := letter == 'f'
      let delimiter := (arguments.value? 'd').getD "\t"
      if 1 < delimiter.length then throw "the delimiter must be a single character"
      if !isField && (arguments.value? 'd').isSome then
        throw "an input delimiter may be specified only when operating on fields"
      if !isField && arguments.has 's' then
        throw "suppressing non-delimited lines makes sense\n\tonly when operating on fields"
      let spans ← readSpans (if isField then "field value" else "byte/character position") text
      return {
        spans
        complement := arguments.has 'C'
        delimiter := if isField then some (delimiter.toList.head?.getD '\x00') else none
        joiner := arguments.value? 'O'
        onlyDelimited := arguments.has 's' }

def eachLine (task : Task) (operands : List String) (change : String → Option String) : Report :=
  let report := task.work do
    task.forTexts operands plainly fun _ text =>
      Working.put (unlines ((lines text).filterMap change))
  if operands.isEmpty || operands.contains "-" then report.reading else report

def cutUtility : Utility := fun task =>
  cutOptions.run 1 task fun arguments =>
    match cutStyle arguments with
    | .error text => task.misuse text 1
    | .ok style => eachLine task arguments.operands style.line

/-! Other characters. -/

/-- The characters that a set stands for. One that repeats as often as it is needed is marked. -/
inductive SetItem
  | chars (chars : List Char)
  | filling (c : Char)
  | upper
  | lower

def kindChars (name : String) : List Char :=
  ((List.range 256).map Char.ofNat).filter (isOfKind name)

def setChar : List Char → Option (Char × List Char)
  | '\\' :: rest =>
      match rest with
      | [] => some ('\\', [])
      | c :: more =>
          match octalEscape? rest with
          | some found => some found
          | none => some ((namedEscape? c).getD c, more)
  | c :: rest => some (c, rest)
  | [] => none

def repeated? (chars : List Char) : Option (SetItem × List Char) := do
  let (c, rest) ← setChar chars
  match rest with
  | '*' :: rest =>
      let digits := rest.takeWhile Char.isDigit
      match rest.drop digits.length with
      | ']' :: rest =>
          match Text.number? (if digits.head? == some '0' then 8 else 10) digits with
          | none | some 0 => return (.filling c, rest)
          | some count => return (.chars (List.replicate count c), rest)
      | _ => none
  | _ => none

def bracketed? (chars : List Char) : Option (SetItem × List Char) :=
  match chars with
  | ':' :: rest =>
      let name := rest.takeWhile (· != ':')
      match rest.drop name.length with
      | ':' :: ']' :: rest =>
          match String.ofList name with
          | "upper" => some (.upper, rest)
          | "lower" => some (.lower, rest)
          | name => if kindChars name = [] then none else some (.chars (kindChars name), rest)
      | _ => none
  | '=' :: c :: '=' :: ']' :: rest => some (.chars [c], rest)
  | _ => repeated? chars

def wrongClass? (chars : List Char) : Option String :=
  match chars with
  | ':' :: rest =>
      let name := rest.takeWhile (· != ':')
      match rest.drop name.length with
      | ':' :: ']' :: _ =>
          if name.isEmpty then some "missing character class name '[::]'"
          else if kindChars (String.ofList name) = [] then
            some ("invalid character class " ++ inMarks (String.ofList name))
          else none
      | _ => none
  | _ => none

def charRange (low high : Char) : List Char :=
  (List.range (high.toNat + 1 - low.toNat)).map fun offset => Char.ofNat (low.toNat + offset)

def shownChar (c : Char) : String :=
  if ' ' ≤ c && c ≤ '~' then String.singleton c
  else "\\" ++ padZeros (Nat.toDigits 8 c.toNat)
where
  padZeros (digits : List Char) : String :=
    String.ofList (List.replicate (3 - digits.length) '0' ++ digits)

def readSet : Nat → List Char → Except String (List SetItem)
  | 0, _ => .ok []
  | _, [] => .ok []
  | fuel + 1, chars => do
      match chars with
      | '[' :: rest =>
          match wrongClass? rest with
          | some text => throw text
          | none => pure ()
      | _ => pure ()
      let bracket : Option (SetItem × List Char) :=
        match chars with
        | '[' :: rest => bracketed? rest
        | _ => none
      match bracket, setChar chars with
      | some (item, rest), _ => return item :: (← readSet fuel rest)
      | none, some (low, '-' :: rest) =>
          match setChar rest with
          | none => return [.chars [low, '-']]
          | some (high, rest) =>
              if high < low then
                throw ("range-endpoints of " ++ inMarks (shownChar low ++ "-" ++ shownChar high) ++
                  " are in reverse collating sequence order")
              else return .chars (charRange low high) :: (← readSet fuel rest)
      | none, some (c, rest) => return .chars [c] :: (← readSet fuel rest)
      | none, none => return []

/-- The characters of a set. A repeated one fills it up to the length that is wanted. -/
def setChars (wanted : Nat) (items : List SetItem) : List Char :=
  let plain (item : SetItem) : List Char :=
    match item with
    | .chars chars => chars
    | .filling _ => []
    | .upper => kindChars "upper"
    | .lower => kindChars "lower"
  let length := total (items.map fun item => (plain item).length)
  items.flatMap fun item =>
    match item with
    | .filling c => List.replicate (wanted - length) c
    | item => plain item

def complementChars (chars : List Char) : List Char :=
  ((List.range 256).map Char.ofNat).filter (!chars.contains ·)

def squeezeChars (set : List Char) : List Char → List Char
  | first :: second :: rest =>
      if first == second && set.contains first then squeezeChars set (second :: rest)
      else first :: squeezeChars set (second :: rest)
  | chars => chars

/-- The character at the same place of the second set, whose last one goes on for ever. -/
def translate (source into : List Char) (c : Char) : Char :=
  match (source.reverse.findIdx? (· == c)).map fun index => source.length - 1 - index with
  | none => c
  | some index => (into[index]? <|> into.getLast?).getD c

def trChange (arguments : Arguments) (sets : List (List SetItem)) (text : List Char) :
    Except String (List Char) :=
  let complemented (items : List SetItem) : List Char :=
    if arguments.has 'c' || arguments.has 'C' then complementChars (setChars 0 items)
    else setChars 0 items
  match sets with
  | [first] =>
      if arguments.has 'd' then .ok (text.filter (!(complemented first).contains ·))
      else .ok (squeezeChars (complemented first) text)
  | [first, second] =>
      let source := complemented first
      if arguments.has 'd' then
        .ok (squeezeChars (setChars 256 second) (text.filter (!source.contains ·)))
      else
        let target := setChars source.length second
        if target.isEmpty then
          .error "when not truncating set1, string2 must be non-empty"
        else
          let source := if arguments.has 't' then source.take target.length else source
          let changed := text.map (translate source target)
          .ok (if arguments.has 's' then squeezeChars target changed else changed)
  | _ => .ok text

def trMisuse? (task : Task) (arguments : Arguments) : Option Report :=
  let hint (text more : String) : Report :=
    task.ending [task.complaint text, .complaint (more ++
      "Try '" ++ task.name ++ " --help' for more information.\n")] 1
  let deletes := arguments.has 'd'
  let squeezes := arguments.has 's'
  match arguments.operands with
  | [] => some (hint "missing operand" "")
  | [only] =>
      if deletes && squeezes then
        some (hint ("missing operand after " ++ inMarks only)
          "Two strings must be given when both deleting and squeezing repeats.\n")
      else if deletes || squeezes then none
      else
        some (hint ("missing operand after " ++ inMarks only)
          "Two strings must be given when translating.\n")
  | [_, second] =>
      if deletes && !squeezes then
        some (hint ("extra operand " ++ inMarks second)
          "Only one string may be given when deleting without squeezing repeats.\n")
      else none
  | _ :: _ :: third :: _ => some (hint ("extra operand " ++ inMarks third) "")

def trUtility : Utility := fun task =>
  (OptionTable.of ['c', 'C', 'd', 's', 't'] []
    [("complement", 'c'), ("delete", 'd'), ("squeeze-repeats", 's'), ("truncate-set1", 't')]).run
    1 task fun arguments =>
    match trMisuse? task arguments with
    | some report => report
    | none =>
        let changed : Except String (List Char) := do
          match task.inputFailure with
          | some error => throw ("read error: " ++ error.text)
          | none => pure ()
          let sets ← arguments.operands.mapM fun set => readSet (set.length + 1) set.toList
          trChange arguments sets task.input.toList
        match changed with
        | .ok chars => (task.ending [.output (String.ofList chars)] 0).reading
        | .error text => task.fail text

end StreamWidth.Shell
