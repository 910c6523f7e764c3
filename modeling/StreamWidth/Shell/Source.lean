import StreamWidth.Shell.Command

/-!
The text of a script while it is read: what is left of it, and the documents that stand in it. A
document starts on the line after the redirection that asks for it.
-/

namespace StreamWidth.Shell

structure ReadError where
  line : Nat
  text : String

inductive Token
  | finish
  | newline
  | operator (text : String)
  | redirect (stream : Option Nat) (operator : String)
  | word (parts : ShellWord)

def reservedWords : List String :=
  ["!", "case", "do", "done", "elif", "else", "esac", "fi", "for", "if", "in", "then", "until",
    "while", "\x7b", "\x7d"]

def Token.bareText? : Token → Option String
  | word [.bare text] => some text
  | _ => none

def Token.isBare (token : Token) (text : String) : Bool :=
  token.bareText? == some text

def Token.isOperator (token : Token) (text : String) : Bool :=
  match token with
  | operator found => found == text
  | _ => false

def inQuotes (text : String) : String :=
  "\"" ++ text ++ "\""

def Token.name (token : Token) (reserved : Bool) : String :=
  match token with
  | finish => "end of file"
  | newline => "newline"
  | operator text => inQuotes text
  | redirect _ _ => "redirection"
  | word _ =>
      match token.bareText? with
      | some text => if reserved && reservedWords.contains text then inQuotes text else "word"
      | none => "word"

/-- A document that a redirection has asked for. -/
structure PendingDocument where
  number : Nat
  delimiter : String
  verbatim : Bool
  dropTabs : Bool

/-- Another name for a command, while what it stands for is read in its place. -/
structure AliasUse where
  name : String
  behind : Nat
  endsBlank : Bool

structure Source where
  rest : List Char
  line : Nat
  pushed : Option Token
  pending : List PendingDocument
  documents : List (Nat × ShellWord)
  aliases : List (String × String)
  uses : List AliasUse

def Source.ofChars (chars : List Char) : Source :=
  ⟨chars, 1, none, [], [], [], []⟩

abbrev Reading :=
  StateT Source (Except ReadError)

namespace Reading

def refuse {α : Type} (text : String) : Reading α := do
  throw ⟨(← get).line, text⟩

def unexpected {α : Type} (token : Token) (reserved : Bool) (wanted : Option String) :
    Reading α :=
  refuse (token.name reserved ++ " unexpected" ++
    (wanted.map fun text => " (expecting " ++ text ++ ")").getD "")

def peek : Reading (Option Char) := do
  return (← get).rest.head?

def advance : Reading Unit := do
  modify fun source =>
    match source.rest with
    | [] => source
    | '\n' :: rest => { source with rest, line := source.line + 1 }
    | _ :: rest => { source with rest }

def skip : Reading Unit := do
  modify fun source => { source with rest := source.rest.drop 1 }

def advanceBy (count : Nat) : Reading Unit := do
  for _ in List.range count do
    advance

def startsWith (text : String) : Reading Bool := do
  return text.toList.isPrefixOf (← get).rest

def takeIf (text : String) : Reading Bool := do
  if ← startsWith text then
    advanceBy text.length
    return true
  return false

def takeWhile (accept : Char → Bool) : Reading String := do
  let taken := (← get).rest.takeWhile accept
  advanceBy taken.length
  return String.ofList taken

def joinLines : Reading Unit := do
  for _ in List.range (← get).rest.length do
    unless ← takeIf "\\\n" do
      break

def pushBack (token : Token) : Reading Unit := do
  modify fun source => { source with pushed := some token }

/-- Reads another text in place of the rest, and then goes on. Its lines are counted from a number. -/
def within {α : Type} (line : Nat) (chars : List Char) (reading : Reading α) : Reading α := do
  let outer ← get
  set { outer with line, rest := chars, pushed := none, pending := [], uses := [] }
  let value ← reading
  modify fun inner =>
    { inner with
      rest := outer.rest, line := outer.line, pushed := outer.pushed, pending := outer.pending
      uses := outer.uses }
  return value

def addDocument (number : Nat) (body : ShellWord) : Reading Unit := do
  modify fun source => { source with documents := (number, body) :: source.documents }

def passUses : Reading Bool := do
  let source ← get
  if source.uses.isEmpty then return false
  let left := source.rest.length
  set { source with uses := source.uses.filter (·.behind ≤ left) }
  return source.uses.any fun use => left < use.behind && use.endsBlank

def replaceAlias (token : Token) : Reading Bool := do
  match token.bareText? with
  | none => return false
  | some name =>
      let source ← get
      match source.aliases.find? (·.1 == name) with
      | none => return false
      | some (_, text) =>
          if source.uses.any (·.name == name) then return false
          else
            let chars := text.toList
            let use : AliasUse :=
              ⟨name, source.rest.length, chars.getLast?.any fun c => c == ' ' || c == '\t'⟩
            set { source with rest := chars ++ source.rest, uses := use :: source.uses }
            return true

end Reading

end StreamWidth.Shell
