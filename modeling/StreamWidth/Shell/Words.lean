import StreamWidth.Shell.Source

/-!
Reading words. What ends a word and what a backslash does depend on where the word stands.
-/

namespace StreamWidth.Shell

/-- Where the parts of a word stand. -/
inductive Scope
  | plain
  | argument
  | quotes
  | quotedArgument
  | document
  | sum (depth : Nat)

def isNameStart (c : Char) : Bool :=
  c.isAlpha || c == '_'

def isNameChar (c : Char) : Bool :=
  c.isAlphanum || c == '_'

def isName (text : String) : Bool :=
  match text.toList with
  | c :: rest => isNameStart c && rest.all isNameChar
  | [] => false

def isSpecialName (c : Char) : Bool :=
  ['@', '*', '#', '?', '-', '$', '!'].contains c

def isWordEnd (c : Char) : Bool :=
  [' ', '\t', '\n', ';', '&', '|', '(', ')', '<', '>'].contains c

def Scope.isQuoted : Scope → Bool
  | plain | argument => false
  | _ => true

def Scope.escapes (scope : Scope) (c : Char) : Bool :=
  match scope with
  | plain | argument => true
  | quotes => ['$', '\x60', '"', '\\'].contains c
  | quotedArgument => ['$', '\x60', '"', '\\', '\x7d'].contains c
  | document | sum _ => ['$', '\x60', '\\'].contains c

def addChar (quoted : Bool) (c : Char) : List Part → List Part
  | .bare text :: parts =>
      if quoted then .quoted (String.singleton c) :: .bare text :: parts
      else .bare (text.push c) :: parts
  | .quoted text :: parts =>
      if quoted then .quoted (text.push c) :: parts
      else .bare (String.singleton c) :: .quoted text :: parts
  | parts =>
      if quoted then .quoted (String.singleton c) :: parts else .bare (String.singleton c) :: parts

def singleQuoted : Reading String := do
  let text ← Reading.takeWhile (· != '\'')
  if ← Reading.takeIf "'" then
    return text
  Reading.refuse "Unterminated quoted string"

def backquoted (quoted : Bool) : Nat → List Char → Reading (List Char)
  | 0, _ => Reading.refuse "EOF in backquote substitution"
  | fuel + 1, taken => do
      match ← Reading.peek with
      | none => Reading.refuse "EOF in backquote substitution"
      | some '\x60' => do
          Reading.advance
          return taken.reverse
      | some '\\' => do
          Reading.advance
          match ← Reading.peek with
          | some c => do
              Reading.advance
              if c == '\n' then backquoted quoted fuel taken
              else if ['\\', '$', '\x60'].contains c || (quoted && c == '"') then
                backquoted quoted fuel (c :: taken)
              else backquoted quoted fuel (c :: '\\' :: taken)
          | none => backquoted quoted fuel ('\\' :: taken)
      | some c => do
          Reading.advance
          backquoted quoted fuel (c :: taken)

def changeOperator (quoted : Bool) : Reading (Option (Change × Scope)) := do
  let scope := if quoted then Scope.quotedArgument else .argument
  if ← Reading.takeIf "##" then return some (.dropFront true, .argument)
  if ← Reading.takeIf "#" then return some (.dropFront false, .argument)
  if ← Reading.takeIf "%%" then return some (.dropBack true, .argument)
  if ← Reading.takeIf "%" then return some (.dropBack false, .argument)
  let colon ← Reading.takeIf ":"
  if ← Reading.takeIf "-" then return some (.ifMissing colon, scope)
  if ← Reading.takeIf "=" then return some (.assignMissing colon, scope)
  if ← Reading.takeIf "?" then return some (.refuseMissing colon, scope)
  if ← Reading.takeIf "+" then return some (.ifPresent colon, scope)
  if colon then
    if ← Reading.takeIf "\x7d" then return some (.plain, scope)
  return none

def parameterName : Reading String := do
  match ← Reading.peek with
  | none => return ""
  | some c =>
      if isNameStart c then Reading.takeWhile isNameChar
      else if c.isDigit then Reading.takeWhile Char.isDigit
      else if isSpecialName c then do
        Reading.advance
        return String.singleton c
      else return ""

def insideParentheses (script : Reading (List Command)) : Reading (List Command) := do
  let pending := (← get).pending
  modify fun source => { source with pending := [] }
  let commands ← script
  match (← get).pushed with
  | some (.operator ")") =>
      modify fun source => { source with pushed := none, pending }
      return commands
  | token => Reading.unexpected (token.getD .finish) true (some (inQuotes ")"))

def asksForLength : Reading Bool := do
  match (← get).rest with
  | '#' :: c :: rest => return isNameChar c || (c != '\x7d' && rest.head? == some '\x7d')
  | _ => return false

/-- Parts of a word up to the end of their scope; the fuel is the length of the text. Commands are
read by `script`. -/
def wordParts (script : Reading (List Command)) : Nat → Scope → List Part → Reading ShellWord
  | 0, _, parts => return parts.reverse
  | fuel + 1, scope, parts => do
      let quoted := scope.isQuoted
      let goOn (parts : List Part) : Reading ShellWord := wordParts script fuel scope parts
      let malformed (name : String) : Reading Part := do
        let _ ← wordParts script fuel (if quoted then .quotedArgument else .argument) []
        if ← Reading.takeIf "\x7d" then return .parameter quoted name .malformed []
        else Reading.refuse "Missing '\x7d'"
      let argumentOf (name : String) : Reading Part := do
        match ← changeOperator quoted with
        | some (change, scope) => do
            let argument ← wordParts script fuel scope []
            if ← Reading.takeIf "\x7d" then return .parameter quoted name change argument
            else Reading.refuse "Missing '\x7d'"
        | none => do
            Reading.skip
            malformed name
      let braces : Reading Part := do
        Reading.joinLines
        if ← asksForLength then
          Reading.advance
          let name ← parameterName
          if name.isEmpty then malformed name
          else if ← Reading.takeIf "\x7d" then return .parameter quoted name .length []
          else malformed name
        else
          let name ← parameterName
          if name.isEmpty then malformed name
          else if ← Reading.takeIf "\x7d" then return .parameter quoted name .plain []
          else argumentOf name
      let parentheses : Reading Part := do
        Reading.joinLines
        if ← Reading.takeIf "(" then
          let expression ← wordParts script fuel (.sum 0) []
          return .arithmetic quoted expression
        else
          let commands ← insideParentheses script
          return .output quoted commands
      let dollar : Reading (Option Part) := do
        Reading.joinLines
        match ← Reading.peek with
        | some '(' => do
            Reading.advance
            return some (← parentheses)
        | some '\x7b' => do
            Reading.advance
            return some (← braces)
        | some c =>
            if isNameStart c then
              return some (.parameter quoted (← Reading.takeWhile isNameChar) .plain [])
            else if c.isDigit || isSpecialName c then do
              Reading.advance
              return some (.parameter quoted (String.singleton c) .plain [])
            else return none
        | none => return none
      let expansion : Reading ShellWord := do
        Reading.advance
        match ← dollar with
        | some part => goOn (part :: parts)
        | none => goOn (addChar quoted '$' parts)
      let oldSubstitution : Reading ShellWord := do
        Reading.advance
        let text ← backquoted quoted (← get).rest.length.succ []
        let commands ← Reading.within 1 text script
        goOn (.output quoted commands :: parts)
      let innerQuotes : Reading ShellWord := do
        Reading.advance
        let inner ← wordParts script fuel .quotes []
        if ← Reading.takeIf "\"" then
          goOn ((if inner.isEmpty then [.quoted ""] else inner.reverse) ++ parts)
        else Reading.refuse "Unterminated quoted string"
      let escape : Reading ShellWord := do
        Reading.advance
        match ← Reading.peek with
        | none => goOn (addChar quoted '\\' parts)
        | some '\n' => do
            Reading.advance
            goOn parts
        | some c =>
            if scope.escapes c then do
              Reading.advance
              goOn (addChar true c parts)
            else goOn (addChar quoted '\\' parts)
      let literal (c : Char) : Reading ShellWord := do
        Reading.advance
        goOn (addChar quoted c parts)
      match ← Reading.peek, scope with
      | none, .quotes => Reading.refuse "Unterminated quoted string"
      | none, .sum _ => Reading.refuse "Missing '))'"
      | none, _ => return parts.reverse
      | some '$', _ => expansion
      | some '\x60', _ => oldSubstitution
      | some '\\', _ => escape
      | some '"', .quotes => return parts.reverse
      | some '"', .document | some '"', .sum _ => literal '"'
      | some '"', _ => innerQuotes
      | some '\x7d', .argument | some '\x7d', .quotedArgument => return parts.reverse
      | some '\'', .plain | some '\'', .argument => do
          Reading.advance
          let text ← singleQuoted
          goOn (.quoted text :: parts)
      | some '(', .sum depth => do
          Reading.advance
          wordParts script fuel (.sum (depth + 1)) (addChar true '(' parts)
      | some ')', .sum 0 => do
          if ← Reading.takeIf "))" then return parts.reverse
          else literal ')'
      | some ')', .sum (depth + 1) => do
          Reading.advance
          wordParts script fuel (.sum depth) (addChar true ')' parts)
      | some c, .plain => if isWordEnd c then return parts.reverse else literal c
      | some c, _ => literal c

def readParts (script : Reading (List Command)) (scope : Scope) : Reading ShellWord := do
  wordParts script (2 * (← get).rest.length + 2) scope []

def documentLines (document : PendingDocument) : Nat → List Char → Reading (List Char)
  | 0, taken => return taken
  | fuel + 1, taken => do
      if document.dropTabs then
        let _ ← Reading.takeWhile (· == '\t')
      let line ← Reading.takeWhile (· != '\n')
      let ended ← Reading.takeIf "\n"
      if line == document.delimiter || (line == "" && !ended) then return taken
      else
        let taken := taken ++ line.toList ++ (if ended then ['\n'] else [])
        if ended then documentLines document fuel taken else return taken

def readDocument (script : Reading (List Command)) (document : PendingDocument) : Reading Unit := do
  let start := (← get).line
  let text ← documentLines document ((← get).rest.length + 1) []
  if document.verbatim then
    Reading.addDocument document.number [.quoted (String.ofList text)]
  else
    Reading.addDocument document.number (← Reading.within start text (readParts script .document))

def readDocuments (script : Reading (List Command)) : Reading Unit := do
  let pending := (← get).pending
  modify fun source => { source with pending := [] }
  for document in pending.reverse do
    readDocument script document

def operators : List String :=
  ["&&", "||", ";;", "&", "|", ";", "(", ")"]

def redirectionOperators : List String :=
  ["<<-", "<<", "<&", "<>", "<", ">>", ">&", ">|", ">"]

def takeFirst : List String → Reading (Option String)
  | [] => return none
  | text :: rest => do
      if ← Reading.takeIf text then return some text else takeFirst rest

def skipBlanks : Reading Unit := do
  for _ in List.range ((← get).rest.length + 1) do
    let _ ← Reading.takeWhile fun c => c == ' ' || c == '\t'
    unless ← Reading.takeIf "\\\n" do
      break
  if (← Reading.peek) == some '#' then
    let _ ← Reading.takeWhile (· != '\n')

def streamNumber? : ShellWord → Option Nat
  | [.bare text] =>
      match text.toList with
      | [c] => if c.isDigit then some (c.toNat - '0'.toNat) else none
      | _ => none
  | _ => none

def readWordToken (script : Reading (List Command)) : Reading Token := do
  let parts ← readParts script .plain
  match streamNumber? parts with
  | none => return .word parts
  | some number => do
      match ← takeFirst redirectionOperators with
      | some operator => return .redirect (some number) operator
      | none => return .word parts

def readToken (script : Reading (List Command)) : Reading Token := do
  skipBlanks
  match ← Reading.peek with
  | none => do
      readDocuments script
      return .finish
  | some '\n' => do
      Reading.advance
      readDocuments script
      return .newline
  | some _ => do
      match ← takeFirst operators with
      | some operator => return .operator operator
      | none => do
          match ← takeFirst redirectionOperators with
          | some operator => return .redirect none operator
          | none => readWordToken script

/-- The next token. Newlines may be left out. -/
def nextToken (script : Reading (List Command)) (skipNewlines : Bool) : Reading Token := do
  for _ in List.range ((← get).rest.length + 2) do
    let source ← get
    let token ←
      match source.pushed with
      | some token => do
          set { source with pushed := none }
          pure token
      | none => readToken script
    match token, skipNewlines with
    | .newline, true => continue
    | token, _ => return token
  return .finish

end StreamWidth.Shell
