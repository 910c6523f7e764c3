import StreamWidth.Power
import StreamWidth.Shell.Duration
import StreamWidth.Shell.Fractions
import StreamWidth.Shell.Printf
import StreamWidth.Shell.Utilities.Files
import StreamWidth.Shell.Utilities.Lines

/-!
Utilities that print names and numbers, find new names, or just pass the time.
-/

namespace StreamWidth.Shell

/-! Parts of paths. -/

def withoutEnding (ending name : String) : String :=
  let kept := name.toList.take (name.length - ending.length)
  if !kept.isEmpty && String.ofList kept ++ ending == name then String.ofList kept else name

def baseNameUtility : Utility := fun task =>
  (OptionTable.of ['a'] ['s'] [("multiple", 'a'), ("suffix", 's')]).run 1 task fun arguments =>
    let ending := arguments.value? 's'
    let shown (ending : String) (names : List String) : Report :=
      let texts := names.map fun name => withoutEnding ending (baseName name)
      task.ending [.output (unlines texts)] 0
    match arguments.operands with
    | [] => task.misuse "missing operand" 1
    | names =>
        if arguments.has 'a' || ending.isSome then shown (ending.getD "") names
        else
          match names with
          | [name] => shown "" [name]
          | [name, ending] => shown ending [name]
          | _ => task.misuse ("extra operand " ++ inMarks ((names.drop 2).headD "")) 1

def directoryName (path : String) : String :=
  let dropSlashes (chars : List Char) : List Char := chars.dropWhile (· == '/')
  let name := dropSlashes path.toList.reverse
  let before := name.dropWhile (· != '/')
  let kept := dropSlashes before
  if !kept.isEmpty then String.ofList kept.reverse
  else if Path.isAbsolute path then "/"
  else "."

def directoryNameUtility : Utility := fun task =>
  (OptionTable.of [] [] []).run 1 task fun arguments =>
    if arguments.operands.isEmpty then task.misuse "missing operand" 1
    else task.ending [.output (unlines (arguments.operands.map directoryName))] 0

/-! Numbers in a row. -/

structure Scaled where
  value : Int
  places : Nat

namespace Scaled

def parse? (text : String) : Option Scaled := do
  let (negative, chars) :=
    match text.toList.dropWhile fun c => c == ' ' || ('\t' ≤ c && c ≤ '\r') with
    | '-' :: rest => (true, rest)
    | '+' :: rest => (false, rest)
    | chars => (false, chars)
  let signed (value places : Nat) : Scaled := ⟨if negative then -value else value, places⟩
  match chars with
  | '0' :: 'x' :: digits | '0' :: 'X' :: digits => (Text.number? 16 digits).map (signed · 0)
  | _ =>
      let whole := chars.takeWhile Char.isDigit
      let behind := chars.drop whole.length
      let (places, behind) :=
        match behind with
        | '.' :: rest => (rest.takeWhile Char.isDigit, rest.dropWhile Char.isDigit)
        | _ => ([], behind)
      let (power, rest) := Fraction.readPower behind
      let value ← Text.number? 10 (whole ++ places)
      if !rest.isEmpty || Fraction.powerBound < power.natAbs then none
      else return signed (value * 10 ^ (power - places.length).toNat) (places.length - power).toNat

def atPlaces (places : Nat) (number : Scaled) : Int :=
  number.value * 10 ^ (places - number.places)

def showAt (places : Nat) (value : Int) : String :=
  let digits := Fraction.withPoint places (Nat.toDigits 10 value.natAbs)
  (if value < 0 then "-" else "") ++ String.ofList digits

end Scaled

def stepsTo (last step : Int) : Nat → Int → List Int
  | 0, _ => []
  | fuel + 1, value =>
      if if 0 < step then last < value else value < last then []
      else value :: stepsTo last step fuel (value + step)

structure Sequence where
  first : Scaled
  step : Scaled
  last : Scaled

def Sequence.texts (sequence : Sequence) (sameWidth : Bool) : List String :=
  let shown := max sequence.first.places sequence.step.places
  let places := max shown sequence.last.places
  let first := sequence.first.atPlaces places
  let step := sequence.step.atPlaces places
  let last := sequence.last.atPlaces places
  let values := stepsTo last step ((last - first).natAbs / step.natAbs + 1) first
  let texts := values.map fun value => Scaled.showAt shown (value.tdiv (10 ^ (places - shown)))
  let bound := Scaled.showAt shown (last.tdiv (10 ^ (places - shown)))
  let width := ((bound :: texts).map String.length).foldl max 0
  if sameWidth then
    texts.map fun text =>
      let zeros := List.replicate (width - text.length) '0'
      match text.toList with
      | '-' :: digits => String.ofList ('-' :: zeros ++ digits)
      | digits => String.ofList (zeros ++ digits)
  else texts

def isNegative (word : String) : Bool :=
  match word.toList with
  | '-' :: c :: _ => c == '.' || c.isDigit
  | _ => false

def sequenceWords (words : List String) : List String :=
  let options := words.takeWhile fun word =>
    word.toList.head? == some '-' && !isNegative word
  let valued := (options.getLast?.any fun word => ["-s", "-f"].contains word)
  if words.contains "--" || options.length = words.length then words
  else
    let count := if valued then options.length + 1 else options.length
    words.take count ++ "--" :: words.drop count

def sequenceOf (task : Task) (operands : List String) : Except Report Sequence := do
  let numbers ← operands.mapM fun text =>
    match Scaled.parse? text with
    | some number => .ok number
    | none =>
        let kind :=
          if text.toLower == "nan" then "'not-a-number' argument: " else "floating point argument: "
        .error (task.misuse ("invalid " ++ kind ++ inMarks text) 1)
  match numbers with
  | [last] => return ⟨⟨1, 0⟩, ⟨1, 0⟩, last⟩
  | [first, last] => return ⟨first, ⟨1, 0⟩, last⟩
  | [first, step, last] =>
      if step.value = 0 then
        throw (task.misuse
          ("invalid Zero increment value: " ++ inMarks ((operands.drop 1).headD "")) 1)
      else return ⟨first, step, last⟩
  | [] => throw (task.misuse "missing operand" 1)
  | _ => throw (task.misuse ("extra operand " ++ inMarks ((operands.drop 3).headD "")) 1)

def formatFault? (format : String) : Option String :=
  let rec skipText : List Char → List Char
    | '%' :: '%' :: rest => skipText rest
    | '%' :: rest => '%' :: rest
    | [] => []
    | _ :: rest => skipText rest
  let fault (text : String) : Option String := some ("format " ++ inMarks format ++ " " ++ text)
  match skipText format.toList with
  | [] => fault "has no % directive"
  | _ :: rest =>
      let behind := rest.dropWhile ['-', '+', '#', '0', ' ', '\''].contains
      let behind := behind.dropWhile Char.isDigit
      let behind :=
        match behind with
        | '.' :: places => places.dropWhile Char.isDigit
        | _ => behind
      let behind := if behind.head? == some 'L' then behind.drop 1 else behind
      match behind with
      | [] => fault "ends in %"
      | letter :: others =>
          if !(['e', 'f', 'g', 'a', 'E', 'F', 'G', 'A'].contains letter) then
            fault ("has unknown %" ++ String.singleton letter ++ " directive")
          else if (skipText others).isEmpty then none
          else fault "has too many % directives"

def sequenceUtility : Utility := fun task =>
  let task := { task with arguments := sequenceWords task.arguments }
  (OptionTable.of ['w'] ['s', 'f'] [("equal-width", 'w'), ("separator", 's'), ("format", 'f')]).run
    1 task fun arguments =>
    match (arguments.value? 'f').bind formatFault?, sequenceOf task (arguments.operands.take 4) with
    | some text, _ => task.fail text
    | none, .error report => report
    | none, .ok sequence =>
        let texts := sequence.texts (arguments.has 'w')
        let shown :=
          match arguments.value? 'f' with
          | some format => texts.map fun text => (Printf.run format [text]).output
          | none => texts
        let separator := (arguments.value? 's').getD "\n"
        task.ending
          (if shown.isEmpty then [] else [.output (separator.intercalate shown ++ "\n")]) 0

/-! Time. -/

def sleepUtility : Utility := fun task =>
  (OptionTable.of [] [] []).run 1 task fun arguments =>
    match task.arguments, arguments.operands with
    | [], _ => task.misuse "missing operand" 1
    | _, operands =>
        match operands.filter fun text => (Duration.read? text).isNone with
        | [] => task.ending [] 0
        | wrong =>
            let complaints := wrong.map fun text =>
              task.complaint ("invalid time interval " ++ inMarks text)
            let hint := "Try '" ++ task.name ++ " --help' for more information.\n"
            task.ending (complaints ++ [.complaint hint]) 1

/-! New files. -/

/-- The first path with digits in the place of the marks at the end of a pattern that is not taken. -/
def unusedPath (files : FileTree) (start ending : String) (marks : Nat) : String :=
  let candidates := (List.range 1000).map fun number =>
    let digits := Nat.toDigits 10 number
    start ++ String.ofList (List.replicate (marks - digits.length) '0' ++ digits) ++ ending
  (candidates.find? fun path => !files.pathExists (decode path)).getD start

def temporaryUtility : Utility := fun task =>
  (OptionTable.of ['d', 'u', 'q', 't'] ['p'] [("directory", 'd'), ("dry-run", 'u'), ("quiet", 'q'),
    ("tmpdir", 'p'), ("suffix", 's')]).run 1 task fun arguments =>
    let pattern := arguments.operands.headD "tmp.XXXXXXXXXX"
    let chars := pattern.toList.reverse
    let marks := (chars.takeWhile (· == 'X')).length
    if 1 < arguments.operands.length then task.misuse "too many templates" 1
    else if marks < 3 then task.fail ("too few X's in template " ++ inMarks pattern)
    else
      let directory :=
        if arguments.operands.isEmpty || arguments.has 't' then
          some ((arguments.value? 'p').getD "/tmp")
        else arguments.value? 'p'
      let pattern := (directory.map fun place => Path.join place pattern).getD pattern
      let start := String.ofList (pattern.toList.take (pattern.length - marks))
      task.work do
        let files := (← get).files
        let path := unusedPath files start "" marks
        let made :=
          if arguments.has 'u' then .ok files
          else if arguments.has 'd' then files.makeDirectory (decode path)
          else files.write (decode path) .empty
        let kind := if arguments.has 'd' then "directory" else "file"
        let attempt := "failed to create " ++ kind ++ " via template " ++ inMarks pattern
        if ← Working.change task attempt made then
          Working.put (path ++ "\n")

end StreamWidth.Shell
