import StreamWidth.Power
import StreamWidth.Shell.Utilities.Lines

/-!
Showing the bytes of files as numbers or characters.
-/

namespace StreamWidth.Shell.Dump

inductive Form
  | chars
  | unsigned (base : Nat)
  | signed

structure Format where
  form : Form
  size : Nat

namespace Format

def places (base value : Nat) : Nat :=
  (Nat.toDigits base value).length

def width (format : Format) : Nat :=
  let most : Nat := 256 ^ format.size - 1
  match format.form with
  | .chars => 3
  | .unsigned base => places base most
  | .signed => places 10 (most / 2) + 1

def number (unit : List Char) : Nat :=
  unit.foldr (fun c value => value * 256 + c.toNat) 0

def fill (width : Nat) (digits : List Char) : String :=
  String.ofList (List.replicate (width - digits.length) '0' ++ digits)

def charText (c : Char) : String :=
  match c with
  | '\x00' => "\\0"
  | '\x07' => "\\a"
  | '\x08' => "\\b"
  | '\t' => "\\t"
  | '\n' => "\\n"
  | '\x0b' => "\\v"
  | '\x0c' => "\\f"
  | '\r' => "\\r"
  | _ =>
      if ' ' ≤ c && c ≤ '~' then String.singleton c else fill 3 (Nat.toDigits 8 c.toNat)

def unitText (format : Format) (unit : List Char) : String :=
  let value := number unit
  match format.form with
  | .chars => charText (unit.headD ' ')
  | .unsigned base =>
      let digits := Nat.toDigits base value
      if base = 10 then String.ofList digits else fill format.width digits
  | .signed =>
      let half : Nat := 256 ^ format.size / 2
      toString (if value < half then (value : Int) else value - 2 * half)

def units (format : Format) (padding count : Nat) : Nat → List (List Char) → String
  | _, [] => ""
  | index, unit :: rest =>
      let left (units : Nat) : Nat := padding * units / count
      let width := left (count - index) - left (count - index - 1) + format.width + 1
      padLeft width (format.unitText unit) ++ format.units padding count (index + 1) rest

end Format

def lineLength : Nat :=
  16

structure Style where
  formats : List Format
  base : Option Nat
  all : Bool

namespace Style

def placeText (style : Style) (place : Nat) : String :=
  match style.base with
  | some base => Format.fill (if base = 16 then 6 else 7) (Nat.toDigits base place)
  | none => ""

def cut (size : Nat) : Nat → List Char → List (List Char)
  | 0, _ => []
  | fuel + 1, chars =>
      if chars.isEmpty then []
      else
        let unit := chars.take size
        (unit ++ List.replicate (size - unit.length) '\x00') :: cut size fuel (chars.drop size)

def lineText (style : Style) (place : Nat) (chars : List Char) : String :=
  let count (format : Format) : Nat := max (lineLength / format.size) 1
  let total := (style.formats.map fun format => (format.width + 1) * count format).foldl max 0
  let texts := style.formats.map fun format =>
    let padding := total - (format.width + 1) * count format
    format.units padding (count format) 0 (cut format.size (chars.length + 1) chars)
  let start := style.placeText place
  let blank := String.ofList (List.replicate start.length ' ')
  String.join ((texts.zipIdx).map fun (text, index) =>
    (if index = 0 then start else blank) ++ text ++ "\n")

/-- The lines from a place on; of equal ones in a row only the first is shown. -/
def linesFrom (style : Style) : Nat → Nat → Option (List Char) → Bool → List Char → List String
  | 0, _, _, _, _ => []
  | fuel + 1, place, previous, starred, chars =>
      if chars.isEmpty then
        match style.base with
        | some _ => [style.placeText place ++ "\n"]
        | none => []
      else
        let line := chars.take lineLength
        let rest := chars.drop lineLength
        let next := place + line.length
        if !style.all && previous == some line && line.length = lineLength then
          (if starred then [] else ["*\n"]) ++ style.linesFrom fuel next previous true rest
        else style.lineText place line :: style.linesFrom fuel next (some line) false rest

end Style

def formatsOf (whole : String) : Nat → List Char → Except String (List Format)
  | 0, _ => .ok []
  | _, [] => .ok []
  | fuel + 1, letter :: rest => do
      let (size, rest) ← sizeOf letter rest
      let form : Form ←
        match letter with
        | 'c' => .ok .chars
        | 'x' => .ok (.unsigned 16)
        | 'o' => .ok (.unsigned 8)
        | 'u' => .ok (.unsigned 10)
        | 'd' => .ok .signed
        | _ =>
            .error ("invalid character " ++ inMarks (String.singleton letter) ++ " in type string " ++
              inMarks whole)
      return ⟨form, size⟩ :: (← formatsOf whole fuel rest)
where
  sizeOf (letter : Char) (rest : List Char) : Except String (Nat × List Char) :=
    let digits := rest.takeWhile Char.isDigit
    if letter == 'c' then .ok (1, rest)
    else
      match Text.number? 10 digits with
      | none => .ok (4, rest)
      | some size =>
          if [1, 2, 4, 8].contains size then .ok (size, rest.drop digits.length)
          else
            .error ("invalid type string " ++ inMarks whole ++ ";\nthis system doesn't provide a " ++
              toString size ++ "-byte integral type")

def givenFormats (option : Given) : Except String (List Format) :=
  match option with
  | ('t', text) => formatsOf text (text.length + 1) text.toList
  | ('b', _) => .ok [⟨.unsigned 8, 1⟩]
  | ('c', _) => .ok [⟨.chars, 1⟩]
  | ('d', _) => .ok [⟨.unsigned 10, 2⟩]
  | ('o', _) => .ok [⟨.unsigned 8, 2⟩]
  | ('x', _) => .ok [⟨.unsigned 16, 2⟩]
  | _ => .ok []

def addressBase (text : String) : Except String (Option Nat) :=
  match text with
  | "o" => .ok (some 8)
  | "d" => .ok (some 10)
  | "x" => .ok (some 16)
  | "n" => .ok none
  | _ =>
      .error ("invalid output address radix " ++ inMarks text ++
        "; it must be one character from [doxn]")

def styleOf (arguments : Arguments) : Except String Style := do
  let formats := (← arguments.given.mapM givenFormats).flatten
  let base ← addressBase ((arguments.value? 'A').getD "o")
  return ⟨if formats.isEmpty then [⟨.unsigned 8, 2⟩] else formats, base, arguments.has 'v'⟩

def count (arguments : Arguments) (letter : Char) : Except String (Option Nat) :=
  match arguments.value? letter with
  | none => .ok none
  | some text =>
      match scaledNumber? text with
      | some count => .ok (some count)
      | none => .error ("invalid -" ++ String.singleton letter ++ " argument " ++ inMarks text)

def utility : Utility := fun task =>
  (OptionTable.of ['b', 'c', 'd', 'o', 'v', 'x'] ['A', 'j', 'N', 't']
    [("address-radix", 'A'), ("skip-bytes", 'j'), ("read-bytes", 'N'), ("format", 't'),
      ("output-duplicates", 'v')]).run 1 task fun arguments =>
    match styleOf arguments, count arguments 'j', count arguments 'N' with
    | .error text, _, _ | _, .error text, _ | _, _, .error text => task.fail text
    | .ok style, .ok skipped, .ok limit =>
        let skipped := skipped.getD 0
        let report := task.work do
          let mut chars : List Char := []
          let mut isOpened := false
          for (path, text) in task.readAll arguments.operands do
            match text with
            | .ok text =>
                chars := chars ++ text.toList
                isOpened := true
            | .error error => do
                isOpened := isOpened || error = .isDirectory
                Working.complain task (plainly path error)
          if chars.length < skipped then
            Working.complain task "cannot skip past end of combined input"
          else
            let rest := chars.drop skipped
            let shown := (limit.map rest.take).getD rest
            if isOpened then
              Working.put
                (String.join (style.linesFrom (shown.length + 1) skipped none false shown))
        if arguments.operands.isEmpty || arguments.operands.contains "-" then report.reading
        else report

end StreamWidth.Shell.Dump
