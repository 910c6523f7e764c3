import StreamWidth.Shell.Escapes
import StreamWidth.Shell.Regex.Reader

/-!
Editing scripts as they are read: commands with the lines that they are for.
-/

namespace StreamWidth.Shell.Sed

/-- An expression, or none for the one that was used last. -/
structure Pattern where
  regex : Option Regex
  ignoreCase : Bool
  linewise : Bool

inductive Address
  | line (number : Nat)
  | last
  | step (first distance : Nat)
  | pattern (pattern : Pattern)

inductive RangeEnd
  | address (address : Address)
  | plus (count : Nat)
  | multiple (count : Nat)

structure Selector where
  first : Option Address
  second : Option RangeEnd
  negated : Bool

/-- What becomes of the letters that follow. -/
inductive Casing
  | plain
  | upper
  | lower
  | upperNext
  | lowerNext

inductive Piece
  | text (chars : List Char)
  | group (number : Nat)
  | casing (casing : Casing)

structure Substitution where
  pattern : Pattern
  pieces : List Piece
  isGlobal : Bool
  number : Nat
  prints : Bool
  file : Option String

inductive Action
  | block
  | blockEnd
  | label (name : String)
  | branch (label : String)
  | branchIf (made : Bool) (label : String)
  | substitute (substitution : Substitution)
  | transliterate (pairs : List (Char × Char))
  | append (text : String)
  | insert (text : String)
  | change (text : String)
  | delete
  | deleteLine
  | print
  | printLine
  | next
  | nextAppended
  | takeHeld
  | takeHeldAppended
  | hold
  | holdAppended
  | exchange
  | clear
  | number
  | show (lineLength : Option Nat)
  | fileName
  | quit (status : Nat) (prints : Bool)
  | readFile (path : String)
  | readLine (path : String)
  | writeFile (path : String)
  | writeLine (path : String)

structure Command where
  selector : Selector
  action : Action

/-- Where something was seen: in which piece of the script, from zero, and after how many characters
there. -/
structure ScriptPlace where
  piece : Nat
  count : Nat

structure ScriptState where
  rest : List Char
  later : List (List Char)
  place : ScriptPlace
  extended : Bool
  blocks : List ScriptPlace

structure ScriptError where
  place : ScriptPlace
  text : String

abbrev ScriptReader :=
  StateT ScriptState (Except ScriptError)

namespace ScriptReader

def refuse {α : Type} (text : String) : ScriptReader α := do
  throw ⟨(← get).place, text⟩

def peek : ScriptReader (Option Char) := do
  return (← get).rest.head?

def skip (count : Nat) : ScriptReader Unit :=
  modify fun state =>
    { state with
      rest := state.rest.drop count
      place := { state.place with count := state.place.count + count } }

def advance : ScriptReader Unit :=
  skip 1

def takeWhile (accept : Char → Bool) : ScriptReader (List Char) := do
  let taken := (← get).rest.takeWhile accept
  skip taken.length
  return taken

def nextPiece : ScriptReader Bool := do
  let state ← get
  match state.later with
  | [] => return false
  | piece :: later => do
      set { state with rest := piece, later, place := ⟨state.place.piece + 1, 0⟩ }
      return true

def skipBlanks : ScriptReader Unit := do
  let _ ← takeWhile fun c => c == ' ' || c == '\t'

def number : ScriptReader Nat := do
  return (Text.number? 10 (← takeWhile Char.isDigit)).getD 0

/-- Text up to a delimiter, none if there is no such. Delimiters within brackets do not count if
`brackets` holds; those behind backslashes lose these. -/
def upTo (delimiter : Char) (brackets : Bool) : Nat → Bool → List Char →
    ScriptReader (Option (List Char))
  | 0, _, _ => return none
  | fuel + 1, inside, taken => do
      match ← peek with
      | none => return none
      | some c => do
          advance
          if inside then
            match c, ← peek with
            | '[', some ':' => do
                let name ← takeWhile (· != ']')
                advance
                upTo delimiter brackets fuel true (']' :: name.reverse ++ '[' :: taken)
            | '\\', some 'n' => do
                advance
                upTo delimiter brackets fuel true ('\n' :: taken)
            | c, _ => upTo delimiter brackets fuel (c != ']') (c :: taken)
          else if c == delimiter then return some taken.reverse
          else if c == '\\' then
            match ← peek with
            | none => return none
            | some next => do
                advance
                if next == delimiter then upTo delimiter brackets fuel false (next :: taken)
                else if next == 'n' && brackets then upTo delimiter brackets fuel false ('\n' :: taken)
                else upTo delimiter brackets fuel false (next :: '\\' :: taken)
          else if c == '[' && brackets then
            let negation ← takeWhile (· == '^')
            let closing ← if (← peek) == some ']' then do advance; pure [']'] else pure []
            upTo delimiter brackets fuel true (closing ++ negation ++ '[' :: taken)
          else upTo delimiter brackets fuel false (c :: taken)

def numbered? (base most : Nat) (chars : List Char) : Option (Char × List Char) :=
  let digits := (chars.take most).takeWhile fun c => (Text.digit? base c).isSome
  (Text.number? base digits).map fun code => (Char.ofNat (code % 256), chars.drop digits.length)

def namedChar? : List Char → Option (Char × List Char)
  | 'a' :: rest => some ('\x07', rest)
  | 'f' :: rest => some ('\x0c', rest)
  | 'n' :: rest => some ('\n', rest)
  | 'r' :: rest => some ('\r', rest)
  | 't' :: rest => some ('\t', rest)
  | 'v' :: rest => some ('\x0b', rest)
  | 'c' :: c :: rest => some (Char.ofNat (c.toUpper.toNat ^^^ 64), rest)
  | 'd' :: rest => numbered? 10 3 rest
  | 'o' :: rest => numbered? 8 3 rest
  | 'x' :: rest => numbered? 16 2 rest
  | _ => none

def plainEscapes : Nat → List Char → List Char
  | 0, _ => []
  | fuel + 1, '\\' :: c :: rest =>
      match if c == 'n' then none else namedChar? (c :: rest) with
      | some (named, others) => named :: plainEscapes fuel others
      | none => '\\' :: c :: plainEscapes fuel rest
  | fuel + 1, c :: rest => c :: plainEscapes fuel rest
  | _, [] => []

/-- The expression that a text stands for; an empty one is the last that was used. -/
def regex (text : List Char) : ScriptReader (Option Regex) := do
  if text.isEmpty then return none
  match Regex.parse (← get).extended true (plainEscapes (text.length + 1) text) with
  | .ok regex => return some regex
  | .error error => refuse error

def patternAddress (delimiter : Char) : ScriptReader Address := do
  match ← upTo delimiter true (← get).rest.length.succ false [] with
  | none => refuse "unterminated address regex"
  | some text => do
      let flags ← takeWhile fun c => c == 'I' || c == 'M'
      return .pattern ⟨← regex text, flags.contains 'I', flags.contains 'M'⟩

def address? : ScriptReader (Option Address) := do
  match ← peek with
  | some '$' => do
      advance
      return some .last
  | some '/' => do
      advance
      return some (← patternAddress '/')
  | some '\\' => do
      advance
      let delimiter := (← peek).getD '/'
      advance
      return some (← patternAddress delimiter)
  | some c =>
      if c.isDigit then
        let first ← number
        if (← peek) == some '~' then
          advance
          return some (.step first (← number))
        else return some (.line first)
      else return none
  | none => return none

def rangeEnd : ScriptReader RangeEnd := do
  match ← peek with
  | some '+' => do
      advance
      return .plus (← number)
  | some '~' => do
      advance
      return .multiple (← number)
  | _ =>
      match ← address? with
      | some address => return .address address
      | none => do
          if (← peek).isSome then advance
          refuse "unexpected \x60,'"

def selector : ScriptReader Selector := do
  if (← peek) == some '+' || (← peek) == some '~' then
    advance
    advance
    refuse "invalid usage of +N or ~N as first address"
  let first ← address?
  skipBlanks
  let second ←
    if first.isSome && (← peek) == some ',' then do
      advance
      skipBlanks
      pure (some (← rangeEnd))
    else pure none
  skipBlanks
  let startsBefore :=
    match first, second with
    | some (.line 0), some (.address (.pattern _)) => false
    | some (.line 0), _ => true
    | _, _ => false
  if startsBefore then
    advance
    refuse "invalid usage of line address 0"
  let negated := (← peek) == some '!'
  if negated then
    advance
    skipBlanks
    if (← peek) == some '!' then
      advance
      refuse "multiple \x60!'s"
  return ⟨first, second, negated⟩

def commandEnd : ScriptReader Unit := do
  skipBlanks
  match ← peek with
  | none | some '\x7d' | some '#' => pure ()
  | some c => do
      advance
      unless c == '\n' || c == ';' do
        refuse "extra characters after command"

def textLines : Nat → List Char → ScriptReader (List Char)
  | 0, taken => return taken.reverse
  | fuel + 1, taken => do
      match ← peek with
      | none => return taken.reverse
      | some '\n' => do
          advance
          return taken.reverse
      | some '\\' => do
          advance
          let rest := (← get).rest
          match namedChar? rest, rest with
          | some (c, others), _ => do
              skip (rest.length - others.length)
              textLines fuel (c :: taken)
          | none, [] => return taken.reverse
          | none, c :: _ => do
              advance
              textLines fuel (c :: taken)
      | some c => do
          advance
          textLines fuel (c :: taken)

def addedText : ScriptReader String := do
  skipBlanks
  match ← peek with
  | none => refuse "expected \\ after \x60a', \x60c' or \x60i'"
  | some '\\' => do
      advance
      if (← peek) == some '\n' then
        advance
        return String.ofList (← textLines ((← get).rest.length + 1) []) ++ "\n"
      if (← peek).isNone then
        unless ← nextPiece do
          return ""
        return String.ofList (← textLines ((← get).rest.length + 1) []) ++ "\n"
      -- The first character stands for itself.
      let first ← takeWhile fun c => c != '\n' && c != '\\'
      return String.ofList (first ++ (← textLines ((← get).rest.length + 1) [])) ++ "\n"
  | some _ => pure ()
  return String.ofList (← textLines ((← get).rest.length + 1) []) ++ "\n"

def fileName : ScriptReader String := do
  skipBlanks
  let name ← takeWhile (· != '\n')
  if name.isEmpty then refuse "missing filename in r/R/w/W commands"
  return String.ofList name

def labelName : ScriptReader String := do
  skipBlanks
  let name ← takeWhile fun c => c != '\n' && c != ';' && c != ' '
  return String.ofList name

def checkSelector (selector : Selector) (c : Char) : ScriptReader Unit := do
  if selector.first.isSome then
    if c == '\x7d' && !(← get).blocks.isEmpty then refuse "\x60\x7d' doesn't want any addresses"
    if c == ':' then refuse ": doesn't want any addresses"
    if c == '#' then refuse "comments don't accept any addresses"
  if selector.second.isSome && (c == 'q' || c == 'Q') then refuse "command only uses one address"

def pieces : Nat → List Char → List Piece
  | 0, _ => []
  | fuel + 1, '\\' :: c :: rest =>
      match namedChar? (c :: rest), c with
      | some (c, others), _ => .text [c] :: pieces fuel others
      | none, 'U' => .casing .upper :: pieces fuel rest
      | none, 'L' => .casing .lower :: pieces fuel rest
      | none, 'u' => .casing .upperNext :: pieces fuel rest
      | none, 'l' => .casing .lowerNext :: pieces fuel rest
      | none, 'E' => .casing .plain :: pieces fuel rest
      | none, _ =>
          if c.isDigit then .group (c.toNat - '0'.toNat) :: pieces fuel rest
          else .text [c] :: pieces fuel rest
  | fuel + 1, '&' :: rest => .group 0 :: pieces fuel rest
  | fuel + 1, c :: rest => .text [c] :: pieces fuel rest
  | _, [] => []

def flags : Nat → Bool → Substitution → ScriptReader Substitution
  | 0, _, substitution => return substitution
  | fuel + 1, numbered, substitution => do
      match ← peek with
      | some 'g' => do
          advance
          if substitution.isGlobal then refuse "multiple \x60g' options to \x60s' command"
          flags fuel numbered { substitution with isGlobal := true }
      | some 'p' => do
          advance
          if substitution.prints then refuse "multiple \x60p' options to \x60s' command"
          flags fuel numbered { substitution with prints := true }
      | some 'i' | some 'I' => do
          advance
          flags fuel numbered
            { substitution with pattern := { substitution.pattern with ignoreCase := true } }
      | some 'm' | some 'M' => do
          advance
          flags fuel numbered
            { substitution with pattern := { substitution.pattern with linewise := true } }
      | some 'w' => do
          advance
          return { substitution with file := some (← fileName) }
      | some c =>
          if c.isDigit then
            if numbered then
              advance
              refuse "multiple number options to \x60s' command"
            let number ← number
            if number = 0 then refuse "number option to \x60s' command may not be zero"
            flags fuel true { substitution with number }
          else if c == ' ' then do
            advance
            flags fuel numbered substitution
          else if ['\t', '\n', ';', '\x7d', '#'].contains c then do
            commandEnd
            return substitution
          else do
            advance
            refuse "unknown option to \x60s'"
      | none => return substitution

def substitution : ScriptReader Substitution := do
  let unterminated {α : Type} : ScriptReader α := refuse "unterminated \x60s' command"
  let some delimiter ← peek | unterminated
  advance
  let some text ← upTo delimiter true (← get).rest.length.succ false [] | unterminated
  let some replacement ← upTo delimiter false (← get).rest.length.succ false [] | unterminated
  let parts := pieces (replacement.length + 1) replacement
  let substitution ← flags ((← get).rest.length + 1) false {
    pattern := ⟨none, false, false⟩, pieces := parts, isGlobal := false, number := 1, prints := false
    file := none }
  let regex ← regex text
  let count := (regex.map (·.groupCount)).getD 9
  for piece in parts do
    match piece with
    | .group number =>
        if count < number then
          refuse ("invalid reference \\" ++ toString number ++ " on \x60s' command's RHS")
    | _ => pure ()
  return { substitution with pattern := { substitution.pattern with regex } }

def listedChars : Nat → List Char → List Char
  | 0, _ => []
  | fuel + 1, '\\' :: c :: rest =>
      match namedChar? (c :: rest) with
      | some (named, others) => named :: listedChars fuel others
      | none => c :: listedChars fuel rest
  | fuel + 1, c :: rest => c :: listedChars fuel rest
  | _, [] => []

def transliteration : ScriptReader (List (Char × Char)) := do
  let unterminated {α : Type} : ScriptReader α := refuse "unterminated \x60y' command"
  let some delimiter ← peek | unterminated
  advance
  let some source ← upTo delimiter false (← get).rest.length.succ false [] | unterminated
  let some target ← upTo delimiter false (← get).rest.length.succ false [] | unterminated
  let source := listedChars (source.length + 1) source
  let target := listedChars (target.length + 1) target
  if source.length != target.length then refuse "strings for \x60y' command are different lengths"
  commandEnd
  return source.zip target

def simpleAction? : Char → Option Action
  | 'd' => some .delete
  | 'D' => some .deleteLine
  | 'p' => some .print
  | 'P' => some .printLine
  | 'n' => some .next
  | 'N' => some .nextAppended
  | 'g' => some .takeHeld
  | 'G' => some .takeHeldAppended
  | 'h' => some .hold
  | 'H' => some .holdAppended
  | 'x' => some .exchange
  | 'z' => some .clear
  | '=' => some .number
  | 'F' => some .fileName
  | _ => none

def quitAction (prints : Bool) : ScriptReader Action := do
  skipBlanks
  let status ← number
  commandEnd
  return .quit (status % 256) prints

def action (c : Char) : ScriptReader Action := do
  match simpleAction? c with
  | some action => do
      commandEnd
      return action
  | none =>
      match c with
      | '\x7b' => do
          modify fun state => { state with blocks := state.place :: state.blocks }
          return .block
      | '\x7d' => do
          if (← get).blocks.isEmpty then refuse "unexpected \x60\x7d'"
          modify fun state => { state with blocks := state.blocks.drop 1 }
          commandEnd
          return .blockEnd
      | 'a' => return .append (← addedText)
      | 'i' => return .insert (← addedText)
      | 'c' => return .change (← addedText)
      | ':' => do
          let name ← labelName
          if name.isEmpty then refuse "\":\" lacks a label"
          return .label name
      | 'b' => return .branch (← labelName)
      | 't' => return .branchIf true (← labelName)
      | 'T' => return .branchIf false (← labelName)
      | 'l' => do
          skipBlanks
          let digits ← takeWhile Char.isDigit
          commandEnd
          return .show (Text.number? 10 digits)
      | 'q' => quitAction true
      | 'Q' => quitAction false
      | 'r' => return .readFile (← fileName)
      | 'R' => return .readLine (← fileName)
      | 'w' => return .writeFile (← fileName)
      | 'W' => return .writeLine (← fileName)
      | 's' => return .substitute (← substitution)
      | 'y' => return .transliterate (← transliteration)
      | _ => refuse ("unknown command: \x60" ++ String.singleton c ++ "'")

def commands : Nat → List Command → ScriptReader (List Command)
  | 0, taken => return taken.reverse
  | fuel + 1, taken => do
      let _ ← takeWhile fun c => c == ' ' || c == '\t' || c == '\n' || c == ';'
      match ← peek with
      | none => do
          if ← nextPiece then commands fuel taken
          else
            match (← get).blocks with
            | [] => return taken.reverse
            | place :: _ => throw ⟨{ place with count := 0 }, "unmatched \x60\x7b'"⟩
      | some '#' => do
          let _ ← takeWhile (· != '\n')
          commands fuel taken
      | some _ => do
          let selector ← selector
          match ← peek with
          | none => refuse "missing command"
          | some c => do
              advance
              checkSelector selector c
              commands fuel (⟨selector, ← action c⟩ :: taken)

end ScriptReader

/-- The commands of a script in pieces, or what is wrong with it and where. -/
def readScript (extended : Bool) (pieces : List (List Char)) : Except ScriptError (List Command) := do
  let fuel := (pieces.map (·.length + 1)).foldl (· + ·) 1
  let (commands, _) ← (ScriptReader.commands fuel []).run
    ⟨pieces.headD [], pieces.drop 1, ⟨0, 0⟩, extended, []⟩
  return commands

end StreamWidth.Shell.Sed
