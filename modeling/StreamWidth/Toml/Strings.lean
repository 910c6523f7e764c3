import StreamWidth.Text.Digits
import StreamWidth.Toml.Reader

/-!
Strings and keys. There are two quotes, one with escapes and one without, and each may be tripled to
hold more than one line.
-/

namespace StreamWidth.Toml

def isHexDigit (c : Char) : Bool :=
  (Text.digit? 16 c).isSome

def codePoint (digits : Nat) : Reader Char := do
  match Text.number? 16 (← Reader.exactly isHexDigit digits) with
  | none => failure
  | some value => if value.isValidChar then return Char.ofNat value else failure

def escape : Reader Char := do
  match ← Reader.satisfy fun _ => true with
  | 'b' => return '\x08'
  | 't' => return '\t'
  | 'n' => return '\n'
  | 'f' => return '\x0c'
  | 'r' => return '\r'
  | '"' => return '"'
  | '\\' => return '\\'
  | 'u' => codePoint 4
  | 'U' => codePoint 8
  | _ => failure

def lineString (quote : Char) (escapes : Bool) : Nat → List Char → Reader String
  | 0, _ => failure
  | fuel + 1, done => do
      let c ← Reader.satisfy isPlainChar
      if c = quote then return String.ofList done.reverse
      else if c = '\\' && escapes then lineString quote escapes fuel ((← escape) :: done)
      else lineString quote escapes fuel (c :: done)

/-- A backslash at the end of a line takes away all blanks up to the next character. -/
def joinLines (fuel : Nat) : Reader Unit := do
  blanks
  newline
  go fuel
where
  go : Nat → Reader Unit
    | 0 => pure ()
    | fuel + 1 => do
        blanks
        if (← Reader.optional newline).isSome then go fuel

def closingQuotes : Nat :=
  3

def quotesBefore : Nat :=
  2

def blockString (quote : Char) (escapes : Bool) : Nat → List Char → Reader String
  | 0, _ => failure
  | fuel + 1, done => do
      match ← Reader.peek with
      | none => failure
      | some c =>
          if c = quote then
            let run ← Reader.takeWhile (· == quote)
            if run.length < closingQuotes then blockString quote escapes fuel (run ++ done)
            else
              let kept := min (run.length - closingQuotes) quotesBefore
              let left := run.drop (closingQuotes + kept)
              modify (left ++ ·)
              return String.ofList ((run.take kept) ++ done).reverse
          else if c = '\\' && escapes then
            Reader.char '\\'
            if (← Reader.optional (joinLines fuel)).isSome then
              blockString quote escapes fuel done
            else blockString quote escapes fuel ((← escape) :: done)
          else if c = '\n' || c = '\r' then
            newline
            blockString quote escapes fuel ('\n' :: done)
          else
            let c ← Reader.satisfy isPlainChar
            blockString quote escapes fuel (c :: done)

def quotedString (quote : Char) (escapes : Bool) (fuel : Nat) : Reader String := do
  Reader.char quote
  lineString quote escapes fuel []

def tripleQuotedString (quote : Char) (escapes : Bool) (fuel : Nat) : Reader String := do
  Reader.text (String.ofList (List.replicate closingQuotes quote))
  let _ ← Reader.optional newline
  blockString quote escapes fuel []

/-- A string with three quotes is never read as an empty one and a rest. -/
def stringWith (quote : Char) (escapes : Bool) (fuel : Nat) : Reader String := do
  if (← get).take closingQuotes = List.replicate closingQuotes quote then
    tripleQuotedString quote escapes fuel
  else quotedString quote escapes fuel

def isBareKeyChar (c : Char) : Bool :=
  c.isAlphanum || c == '_' || c == '-'

def simpleKey (fuel : Nat) : Reader String := do
  match ← Reader.peek with
  | some '"' => quotedString '"' true fuel
  | some '\'' => quotedString '\'' false fuel
  | _ =>
      let name ← Reader.takeWhile isBareKeyChar
      if name.isEmpty then failure else return String.ofList name

/-- Nesting stays below this depth, of dotted keys and of values alike. -/
def depthLimit : Nat :=
  80

def dottedKey : Nat → Reader (List String)
  | 0 => failure
  | fuel + 1 => do
      blanks
      let name ← simpleKey fuel
      blanks
      if (← Reader.optional (Reader.char '.')).isSome then
        return name :: (← dottedKey fuel)
      else return [name]

def key (fuel : Nat) : Reader (List String) := do
  let path ← dottedKey fuel
  if path.length < depthLimit then return path else failure

end StreamWidth.Toml
