/-!
Readers take what they need from the front of a text, or refuse it.
-/

namespace StreamWidth.Toml

abbrev Reader (α : Type) :=
  StateT (List Char) Option α

namespace Reader

def peek : Reader (Option Char) := do
  return (← get).head?

def satisfy (accept : Char → Bool) : Reader Char := fun chars =>
  match chars with
  | c :: rest => if accept c then some (c, rest) else none
  | [] => none

def char (expected : Char) : Reader Unit := do
  let _ ← satisfy (· == expected)

def text (expected : String) : Reader Unit :=
  expected.toList.forM char

def takeWhile (accept : Char → Bool) : Reader (List Char) := fun chars =>
  some (chars.takeWhile accept, chars.dropWhile accept)

def exactly (accept : Char → Bool) : Nat → Reader (List Char)
  | 0 => pure []
  | count + 1 => do
      let c ← satisfy accept
      return c :: (← exactly accept count)

def optional {α : Type} (reader : Reader α) : Reader (Option α) := fun chars =>
  match reader chars with
  | some (value, rest) => some (some value, rest)
  | none => some (none, chars)

def consumed {α : Type} (reader : Reader α) : Reader (List Char) := fun chars => do
  let (_, rest) ← reader chars
  return (chars.take (chars.length - rest.length), rest)

end Reader

def isBlankChar (c : Char) : Bool :=
  c == ' ' || c == '\t'

def isPlainChar (c : Char) : Bool :=
  c == '\t' || (' ' ≤ c && c != '\x7f')

def blanks : Reader Unit := do
  let _ ← Reader.takeWhile isBlankChar

def newline : Reader Unit :=
  Reader.char '\n' <|> Reader.text "\r\n"

def comment : Reader Unit := do
  Reader.char '#'
  let _ ← Reader.takeWhile isPlainChar

def lineEnd : Reader Unit := do
  if (← Reader.peek).isSome then
    newline

def lineRest : Reader Unit := do
  blanks
  let _ ← Reader.optional comment
  lineEnd

def gap : Nat → Reader Unit
  | 0 => pure ()
  | fuel + 1 => do
      blanks
      match ← Reader.peek with
      | some '#' => do
          comment
          newline
          gap fuel
      | some '\n' | some '\r' => do
          newline
          gap fuel
      | _ => pure ()

end StreamWidth.Toml
