import StreamWidth.Shell.Bytes

/-!
Texts as they stand in messages: in quotes, with characters that cannot be printed by their numbers.
Names of files are written so that a shell would read them as one word.
-/

namespace StreamWidth.Shell

def escapeText (c : Char) : String :=
  match c with
  | '\x07' => "a"
  | '\x08' => "b"
  | '\t' => "t"
  | '\n' => "n"
  | '\x0b' => "v"
  | '\x0c' => "f"
  | '\r' => "r"
  | c =>
      let digits := Nat.toDigits 8 c.toNat
      String.ofList (List.replicate (3 - digits.length) '0' ++ digits)

def isPrinted (c : Char) : Bool :=
  ' ' ≤ c && c ≤ '~'

def inMarks (text : String) : String :=
  "'" ++ String.join (text.toList.map fun c =>
    if c == '\\' || c == '\'' then "\\" ++ String.singleton c
    else if isPrinted c then String.singleton c
    else "\\" ++ escapeText c) ++ "'"

def isPlainEverywhere (text : List Char) : Bool :=
  (text.zipIdx).all fun (c, place) =>
    if c == '#' || c == '~' then place = 0
    else isPrinted c && !("!\"$&()*;<=>?[\\^\x60\x7b|\x7d".toList.contains c)

/-- The characters of a text between single quotes, of which some are left for those that cannot stand
there. -/
def betweenMarks : Bool → List Char → String
  | _, [] => ""
  | isEscaping, c :: rest =>
      if c == '\'' then "'\\''" ++ betweenMarks false rest
      else if isPrinted c then
        (if isEscaping then "''" else "") ++ String.singleton c ++ betweenMarks false rest
      else (if isEscaping then "\\" else "'$'\\") ++ escapeText c ++ betweenMarks true rest

def nameInMarks (text : String) : String :=
  if text.toList.contains '\'' && isPlainEverywhere text.toList then "\"" ++ text ++ "\""
  else "'" ++ betweenMarks false text.toList ++ "'"

def needsMarks (text : String) : Bool :=
  text.isEmpty || text == "\x7b" || text == "\x7d" ||
    (text.toList.zipIdx).any fun (c, place) =>
      if c == '#' || c == '~' then place = 0
      else !isPrinted c || " !\"$&'()*:;<=>?[\\^\x60|".toList.contains c

/-- The name of a file, quoted only where that is needed. -/
def shownName (text : String) : String :=
  if needsMarks text then nameInMarks text else text

end StreamWidth.Shell
