import StreamWidth.Shell.Words

/-!
Reading commands. A script is read one complete command at a time, so that what stands before a
mistake is still carried out.
-/

namespace StreamWidth.Shell

/-- What is read: commands up to a token that cannot belong to them, or a single command. -/
inductive Goal
  | commands (mayBeEmpty : Bool)
  | command

abbrev CommandReader :=
  Goal → Reading (List Command)

def endsCommands (token : Token) : Bool :=
  match token with
  | .finish => true
  | .operator text => text == ")" || text == ";;"
  | _ =>
      (token.bareText?).any
        ["do", "done", "elif", "else", "esac", "fi", "then", "\x7d"].contains

namespace CommandReader

variable (reader : CommandReader)

def script : Reading (List Command) :=
  reader (.commands true)

def next (skipNewlines : Bool) : Reading Token :=
  nextToken reader.script skipNewlines

def nextCommand (skipNewlines : Bool) : Nat → Reading Token
  | 0 => reader.next skipNewlines
  | fuel + 1 => do
      let token ← reader.next skipNewlines
      let _ ← Reading.passUses
      if ← Reading.replaceAlias token then nextCommand skipNewlines fuel else return token

def aliasLimit : Nat :=
  100

def expectWord (text : String) : Reading Unit := do
  let token ← reader.next true
  unless token.isBare text do
    Reading.unexpected token true (some (inQuotes text))

def expectOperator (text : String) : Reading Unit := do
  let token ← reader.next true
  unless token.isOperator text do
    Reading.unexpected token true (some (inQuotes text))

def block : Reading (List Command) :=
  reader (.commands false)

def delimiterText (word : ShellWord) : String × Bool :=
  word.foldl (fun (text, quoted) part =>
    match part with
    | .bare more => (text ++ more, quoted)
    | .quoted more => (text ++ more, true)
    | _ => (text, quoted)) ("", false)

def documentRedirection (stream : Nat) (dropTabs : Bool) (word : ShellWord) :
    Reading Redirection := do
  let source ← get
  let number := source.documents.length + source.pending.length
  let (delimiter, verbatim) := delimiterText word
  set { source with pending := ⟨number, delimiter, verbatim, dropTabs⟩ :: source.pending }
  return .document stream number

def isStreamName (word : ShellWord) : Bool :=
  match word with
  | [.bare text] => text == "-" || (streamNumber? word).isSome
  | _ => word.any fun part =>
      match part with
      | .bare _ | .quoted _ => false
      | _ => true

def redirection (stream : Option Nat) (operator : String) : Reading Redirection := do
  let token ← reader.next false
  let .word target := token | Reading.unexpected token false none
  let fromFile (transfer : Transfer) : Reading Redirection :=
    return .file (stream.getD 0) transfer target
  let toFile (transfer : Transfer) : Reading Redirection :=
    return .file (stream.getD 1) transfer target
  match operator with
  | "<" => fromFile .input
  | "<>" => fromFile .update
  | ">" => toFile .output
  | ">|" => toFile .replace
  | ">>" => toFile .append
  | "<<" => documentRedirection (stream.getD 0) false target
  | "<<-" => documentRedirection (stream.getD 0) true target
  | "<&" => if isStreamName target then fromFile .copyInput else Reading.refuse "Bad fd number"
  | _ => if isStreamName target then toFile .copyOutput else Reading.refuse "Bad fd number"

def redirections : Nat → List Redirection → Reading (List Redirection)
  | 0, taken => return taken.reverse
  | fuel + 1, taken => do
      match ← reader.next false with
      | .redirect stream operator => do
          redirections fuel ((← reader.redirection stream operator) :: taken)
      | token => do
          Reading.pushBack token
          return taken.reverse

/-- A name and an equals sign at the start of a word, and what follows them. -/
def assignment? (word : ShellWord) : Option (String × ShellWord) :=
  match word with
  | .bare text :: rest =>
      let name := text.toList.takeWhile (· != '=')
      if isName (String.ofList name) && name.length < text.length then
        let value := text.toList.drop (name.length + 1)
        some (String.ofList name,
          (if value.isEmpty then rest else .bare (String.ofList value) :: rest))
      else none
  | _ => none

structure SimpleCommand where
  line : Nat
  assignments : List (String × ShellWord)
  words : List ShellWord
  redirections : List Redirection

def SimpleCommand.command (parts : SimpleCommand) : Command :=
  .simple parts.line parts.assignments.reverse parts.words.reverse parts.redirections.reverse

def functionDefinition (line : Nat) (word : ShellWord) : Reading Command := do
  let token ← reader.next false
  unless token.isOperator ")" do
    Reading.unexpected token false (some (inQuotes ")"))
  let name := ((Token.word word).bareText?).getD ""
  unless isName name && !specialNames.contains name do
    Reading.refuse "Bad function name"
  let body ← reader .command
  return .definition line name (.group body)

def simple : Nat → SimpleCommand → Reading Command
  | 0, parts => return parts.command
  | fuel + 1, parts => do
      let token ←
        if parts.words.isEmpty then reader.nextCommand false aliasLimit else reader.next false
      let mayBeAlias ← Reading.passUses
      let replaced ← if mayBeAlias then Reading.replaceAlias token else pure false
      if replaced then simple fuel parts else
      match token with
      | .redirect stream operator => do
          let redirection ← reader.redirection stream operator
          simple fuel { parts with redirections := redirection :: parts.redirections }
      | .word word =>
          match assignment? word, parts.words with
          | some assignment, [] =>
              simple fuel { parts with assignments := assignment :: parts.assignments }
          | _, _ => simple fuel { parts with words := word :: parts.words }
      | .operator "(" =>
          match parts.words, parts.assignments, parts.redirections with
          | [word], [], [] => reader.functionDefinition parts.line word
          | _, _, _ => do
              Reading.pushBack token
              return parts.command
      | token => do
          Reading.pushBack token
          return parts.command

def alternatives : Nat → Reading (List Command)
  | 0 => return []
  | fuel + 1 => do
      let token ← reader.next true
      if token.isBare "elif" then
        let test ← reader.block
        reader.expectWord "then"
        let consequent ← reader.block
        return [.condition test consequent (← alternatives fuel)]
      else if token.isBare "else" then
        let commands ← reader.block
        reader.expectWord "fi"
        return commands
      else if token.isBare "fi" then return []
      else Reading.unexpected token true (some (inQuotes "fi"))

def conditional (fuel : Nat) : Reading Command := do
  let test ← reader.block
  reader.expectWord "then"
  let consequent ← reader.block
  return .condition test consequent (← reader.alternatives fuel)

def loop (wanted : Bool) : Reading Command := do
  let test ← reader.block
  reader.expectWord "do"
  let body ← reader.block
  reader.expectWord "done"
  return .loop wanted test body

def wordList : Nat → List ShellWord → Reading (List ShellWord)
  | 0, taken => return taken.reverse
  | fuel + 1, taken => do
      match ← reader.next false with
      | .word word => wordList fuel (word :: taken)
      | .newline | .operator ";" => return taken.reverse
      | token => Reading.unexpected token false none

def forEach (fuel line : Nat) : Reading Command := do
  let token ← reader.next false
  let name := token.bareText?.getD ""
  unless isName name do
    Reading.refuse "Bad for loop variable"
  let token ← reader.next true
  let words ←
    if token.isBare "in" then some <$> reader.wordList fuel []
    else do
      unless token.isOperator ";" do
        Reading.pushBack token
      pure none
  reader.expectWord "do"
  let body ← reader.block
  reader.expectWord "done"
  return .forEach line name words body

def casePatterns : Nat → Token → List ShellWord → Reading (List ShellWord)
  | 0, _, taken => return taken.reverse
  | fuel + 1, token, taken => do
      let taken :=
        match token with
        | .word word => word :: taken
        | _ => taken
      let after ← reader.next false
      if after.isOperator "|" then casePatterns fuel (← reader.next false) taken
      else if after.isOperator ")" then return taken.reverse
      else Reading.unexpected after false (some (inQuotes ")"))

def cases : Nat → List (List ShellWord × List Command) →
    Reading (List (List ShellWord × List Command))
  | 0, taken => return taken.reverse
  | fuel + 1, taken => do
      let token ← reader.next true
      if token.isBare "esac" then return taken.reverse
      else
        let first ← if token.isOperator "(" then reader.next false else pure token
        let patterns ← reader.casePatterns fuel first []
        let body ← reader.script
        let taken := (patterns, body) :: taken
        let token ← reader.next true
        if token.isBare "esac" then return taken.reverse
        else if token.isOperator ";;" then cases fuel taken
        else Reading.unexpected token true (some (inQuotes ";;"))

def choice (fuel line : Nat) : Reading Command := do
  let token ← reader.next false
  let .word subject := token | Reading.unexpected token false (some "word")
  reader.expectWord "in"
  return .choice line subject (← reader.cases fuel [])

def groupInBraces : Reading Command := do
  let commands ← reader.block
  reader.expectWord "\x7d"
  return .group commands

def groupInParentheses (line : Nat) : Reading Command := do
  let commands ← reader.block
  reader.expectOperator ")"
  return .subshell line commands

def compound? (fuel line : Nat) (token : Token) : Option (Reading Command) :=
  match token with
  | .operator "(" => some (reader.groupInParentheses line)
  | _ =>
      match token.bareText? with
      | some "\x7b" => some reader.groupInBraces
      | some "if" => some (reader.conditional fuel)
      | some "while" => some (reader.loop true)
      | some "until" => some (reader.loop false)
      | some "for" => some (reader.forEach fuel line)
      | some "case" => some (reader.choice fuel line)
      | _ => none

def onlyParentheses? : Command → Option Command
  | .subshell line commands => some (.subshell line commands)
  | .redirected _ (.subshell line commands) _ => some (.subshell line commands)
  | .group [command] => onlyParentheses? command
  | _ => none

/-- A command with redirections. Those of a group that holds nothing but parentheses take the place
of the redirections of these. -/
def redirect (line : Nat) (redirections : List Redirection) (command : Command) : Command :=
  .redirected line ((onlyParentheses? command).getD command) redirections

def command (fuel : Nat) (skipNewlines : Bool) : Reading Command := do
  let token ← reader.nextCommand skipNewlines aliasLimit
  let line := (← get).line
  match reader.compound? fuel line token with
  | some reading => do
      let command ← reading
      match ← reader.redirections fuel [] with
      | [] => return command
      | redirections => return redirect line redirections command
  | none =>
      match token with
      | .redirect _ _ => do
          Reading.pushBack token
          reader.simple fuel ⟨line, [], [], []⟩
      | .word _ =>
          if (token.bareText?).any reservedWords.contains then
            Reading.unexpected token true none
          else do
            Reading.pushBack token
            reader.simple fuel ⟨line, [], [], []⟩
      | _ => Reading.unexpected token true none

def pipelineRest (fuel : Nat) : Nat → List Command → Reading Command
  | 0, taken => return .pipeline taken.reverse
  | count + 1, taken => do
      let token ← reader.next false
      if token.isOperator "|" then
        pipelineRest fuel count ((← reader.command fuel true) :: taken)
      else do
        Reading.pushBack token
        match taken with
        | [command] => return command
        | commands => return .pipeline commands.reverse

def pipeline (fuel : Nat) (skipNewlines : Bool) : Reading Command := do
  let token ← reader.nextCommand skipNewlines aliasLimit
  if token.isBare "!" then
    return .negation (← reader.pipelineRest fuel fuel [← reader.command fuel false])
  else do
    Reading.pushBack token
    reader.pipelineRest fuel fuel [← reader.command fuel false]

def chainRest (fuel : Nat) : Nat → Command → Reading Command
  | 0, first => return first
  | count + 1, first => do
      let token ← reader.next false
      if token.isOperator "&&" then
        chainRest fuel count (.conjunction first (← reader.pipeline fuel true))
      else if token.isOperator "||" then
        chainRest fuel count (.disjunction first (← reader.pipeline fuel true))
      else do
        Reading.pushBack token
        return first

def chain (fuel : Nat) : Reading Command := do
  reader.chainRest fuel fuel (← reader.pipeline fuel false)

def commandsFrom (fuel : Nat) : Nat → Bool → List Command → Reading (List Command)
  | 0, _, taken => return taken.reverse
  | count + 1, started, taken => do
      let token ← reader.nextCommand true aliasLimit
      Reading.pushBack token
      if (started && endsCommands token) || (token matches .finish) then return taken.reverse
      else
        let command ← reader.chain fuel
        let token ← reader.next false
        match token with
        | .operator "&" => commandsFrom fuel count true (.background command :: taken)
        | .operator ";" | .newline => commandsFrom fuel count true (command :: taken)
        | token => do
            Reading.pushBack token
            return (command :: taken).reverse

def lineFrom (fuel : Nat) : Nat → List Command → Reading (List Command)
  | 0, taken => return taken.reverse
  | count + 1, taken => do
      let token ← reader.nextCommand false aliasLimit
      match token with
      | .newline => return taken.reverse
      | .finish => do
          Reading.pushBack token
          return taken.reverse
      | token => do
          Reading.pushBack token
          let command ← reader.chain fuel
          let token ← reader.next false
          match token with
          | .operator "&" => lineFrom fuel count (.background command :: taken)
          | .operator ";" => lineFrom fuel count (command :: taken)
          | .newline => return (command :: taken).reverse
          | .finish => do
              Reading.pushBack token
              return (command :: taken).reverse
          | token => Reading.unexpected token true none

end CommandReader

def nestingLimit : Nat :=
  300

def readGoal : Nat → CommandReader
  | 0, _ => Reading.refuse "nested too deeply"
  | depth + 1, goal => do
      let fuel := (← get).rest.length + 2
      let reader : CommandReader := readGoal depth
      match goal with
      | .commands mayBeEmpty => reader.commandsFrom fuel fuel mayBeEmpty []
      | .command => do
          let token ← reader.next true
          Reading.pushBack token
          return [← reader.command fuel false]

/-- The next complete command of a script, none at its end. -/
def readLine : Reading (Option (List Command)) := do
  let fuel := (← get).rest.length + 2
  let reader : CommandReader := readGoal nestingLimit
  let commands ← reader.lineFrom fuel fuel []
  match commands, (← get).pushed with
  | [], some .finish => return none
  | commands, _ => return some commands

end StreamWidth.Shell
