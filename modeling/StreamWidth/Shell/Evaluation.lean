import StreamWidth.Shell.Background
import StreamWidth.Shell.Builtins.Control
import StreamWidth.Shell.Grammar

/-!
Carrying out commands. What they contain is carried out by a performer that each function is given,
so that none of them calls itself.
-/

namespace StreamWidth.Shell

def checkFailure (tested : Bool) : Run Unit := do
  if !tested && (← getProcess).status != 0 && (← isOn 'e') then throw .exit

/-- What a simple command carries out. -/
inductive Callee
  | nothing
  | special (builtin : Builtin)
  | function (body : Command)
  | regular (builtin : Builtin)
  | program

def callee (perform : Performer) (tested mayBeFunction : Bool) : List String → Run Callee
  | [] => return .nothing
  | name :: _ => do
      let functions := (← getProcess).functions
      match specialBuiltin? perform tested name with
      | some builtin => return if mayBeFunction then .special builtin else .regular builtin
      | none =>
          match (functions.find? (·.1 == name)).filter fun _ => mayBeFunction with
          | some (_, body) => return .function body
          | none =>
              match regularBuiltin? perform name with
              | some builtin => return .regular builtin
              | none => return .program

def withoutRequest : List String → Option (List String)
  | "command" :: "-p" :: rest => withoutRequest ("command" :: rest)
  | "command" :: "--" :: rest => some rest
  | "command" :: name :: rest =>
      if name.toList.head? == some '-' then none
      else some ((withoutRequest (name :: rest)).getD (name :: rest))
  | _ => none

def takesAssignments (words : List String) : Bool :=
  words.head?.any ["export", "readonly", "local", "alias"].contains

def commandFields (perform : Performer) : List ShellWord → List String → Run (List String)
  | [], fields => return fields
  | word :: rest, fields => do
      match (CommandReader.assignment? word).filter fun _ => takesAssignments fields with
      | some (name, value) =>
          commandFields perform rest (fields ++ [name ++ "=" ++ (← expandAssigned perform value)])
      | none => commandFields perform rest (fields ++ (← expandFields perform word))

def trace (errors : Option Nat) (assignments : List (String × String)) (fields : List String) :
    Run Unit := do
  let texts := assignments.map (fun (name, value) => name ++ "=" ++ value) ++ fields
  if ← isOn 'x' then
    let start := (← lookUp "PS4").getD ""
    keepingStreams do
      match errors with
      | some index => attach 2 index
      | none => pure ()
      writeError (start ++ " ".intercalate texts ++ "\n")

def withVariables (before : Dictionary Variable) (names : List String) (action : Run Unit) :
    Run Unit := do
  for name in names do
    changeVariable name fun old => { old with exported := true }
  try action
  finally
    for name in names do
      restoreVariable name (before.get? name)

def runBuiltin (name : String) (builtin : Builtin) (arguments : List String) : Run Unit := do
  let outer := (← getProcess).builtin
  modifyProcess fun process => { process with builtin := some name }
  try setStatus (← builtin arguments)
  finally modifyProcess fun process => { process with builtin := outer }

def callLimit : Nat :=
  1000

def callFunction (perform : Performer) (tested : Bool) (body : Command) (arguments : List String) :
    Run Unit := do
  let outer ← getProcess
  if callLimit ≤ outer.locals.length then
    refuse ("Maximum function recursion depth (" ++ toString callLimit ++ ") reached")
  modifyProcess fun process =>
    { process with
      arguments, loopDepth := 0, optionPlace := .first, locals := [] :: process.locals }
  try perform (.commands tested [body])
  catch
    | .giveBack => pure ()
    | other => throw other
  finally
    let own := ((← getProcess).locals.head?).getD []
    modifyProcess fun process =>
      { process with
        arguments := outer.arguments, loopDepth := outer.loopDepth
        optionPlace := outer.optionPlace, locals := outer.locals }
    for (name, old) in own do
      restoreVariable name old

/-- Carries out a command whose words are known. The variables that were assigned for it are as
they were before in the end, unless the command is special. -/
def call (perform : Performer) (tested : Bool) (callee : Callee) (before : Dictionary Variable)
    (assigned : List String) (fields : List String) : Run Unit := do
  let name := fields.head?.getD ""
  let arguments := fields.drop 1
  match callee with
  | .nothing => do setStatus (← getProcess).substituted
  | .special builtin => runBuiltin name builtin arguments
  | .function body =>
      withVariables before assigned do
        callFunction perform tested body arguments
  | .regular builtin =>
      withVariables before assigned do
        try runBuiltin name builtin arguments
        catch
          | .refused => pure ()
          | other => throw other
  | .program =>
      withVariables before assigned do
        let places := (← lookUp "PATH").getD ""
        setStatus (← isolated perform true (perform (.program places fields)))

def staysRedirected (fields : List String) : Bool :=
  fields == ["exec"] || fields == ["exec", "--"]

def performSimple (perform : Performer) (tested : Bool) (assignments : List (String × ShellWord))
    (words : List ShellWord) (redirections : List Redirection) : Run Unit := do
  modifyProcess fun process => { process with substituted := 0 }
  let fields ← commandFields perform words []
  let (fields, mayBeFunction) :=
    match withoutRequest fields with
    | some rest => (rest, false)
    | none => (fields, true)
  let callee ← callee perform tested mayBeFunction fields
  if callee matches .program then
    unless assignments.any (·.1 == "PATH") do
      remember (fields.headD "")
  let streams := (← getProcess).streams
  let errors := (streams.find? (·.1 == 2)).map (·.2)
  let carryOut : Run Unit := do
    if ← redirect perform redirections then
      let before := (← getProcess).bindings
      let assignments ← assignments.mapM fun (name, word) => do
        let value ← expandAssigned perform word
        assign name value
        return (name, value)
      trace errors assignments fields
      call perform tested callee before (assignments.map (·.1)) fields
    else
      setStatus brokenStatus
      if callee matches .special _ then throw .refused
  if staysRedirected fields then carryOut else keepingStreams carryOut
  checkFailure tested

/-! Compound commands. -/

def plainName? : Command → Option String
  | .simple _ _ ([.bare text] :: _) _ => if text.toList.all isNameChar then some text else none
  | .group [command] => plainName? command
  | _ => none

/-- Each command reads what the one before it writes; the last one decides. -/
def performPipeline (perform : Performer) (tested : Bool) : List Command → Run Unit
  | [] => return
  | [last] => do setStatus (← isolated perform true (perform (.commands tested [last])))
  | first :: rest => do
      let (_, output) ← capture perform (perform (.commands tested [first]))
      withInput (.buffer (bytesOfText output)) (performPipeline perform tested rest)

def performBody (perform : Performer) (tested : Bool) (body : List Command) : Run Bool := do
  try
    perform (.commands tested body)
    return true
  catch
    | .loop levels again => do
        setStatus 0
        if 1 < levels then throw (.loop (levels - 1) again)
        return again
    | other => throw other

def loopLimit : Nat :=
  1000000

def inLoop (action : Run Unit) : Run Unit := do
  let depth := (← getProcess).loopDepth
  modifyProcess fun process => { process with loopDepth := depth + 1 }
  try action
  finally modifyProcess fun process => { process with loopDepth := depth }

/-- Repeats the body as long as the test ends as wanted. The status is that of the last body. -/
def performLoop (perform : Performer) (tested wanted : Bool) (test body : List Command) :
    Nat → Nat → Run Unit
  | 0, _ => throw .exhausted
  | fuel + 1, last => do
      if ← performBody perform true test then
        if ((← getProcess).status == 0) == wanted then
          if ← performBody perform tested body then
            performLoop perform tested wanted test body fuel (← getProcess).status
        else setStatus last

def performForEach (perform : Performer) (tested : Bool) (name : String) (body : List Command) :
    List String → Run Unit
  | [] => return
  | value :: rest => do
      assign name value
      if ← performBody perform tested body then performForEach perform tested name body rest

def matchesPattern (perform : Performer) (subject : String) (pattern : ShellWord) : Run Bool := do
  return globMatches (marks (← expandWord perform pattern)) subject.toList

def matchesAny (perform : Performer) (subject : String) : List ShellWord → Run Bool
  | [] => return false
  | pattern :: rest => do
      if ← matchesPattern perform subject pattern then return true
      else matchesAny perform subject rest

def performChoice (perform : Performer) (tested : Bool) (subject : String) :
    List (List ShellWord × List Command) → Run Unit
  | [] => setStatus 0
  | (patterns, body) :: rest => do
      if ← matchesAny perform subject patterns then
        setStatus 0
        perform (.commands tested body)
      else performChoice perform tested subject rest

def setLine (line : Nat) : Run Unit :=
  modifyProcess fun process => { process with line }

def performCommand (perform : Performer) (tested : Bool) : Command → Run Unit
  | .simple line assignments words redirections => do
      setLine line
      performSimple perform tested assignments words redirections
  | .pipeline commands => do
      for name in commands.filterMap plainName? do
        remember name
      performPipeline perform tested commands
      checkFailure tested
  | .negation command => do
      perform (.commands true [command])
      setStatus (if (← getProcess).status = 0 then 1 else 0)
  | .conjunction first second => do
      perform (.commands true [first])
      if (← getProcess).status = 0 then perform (.commands tested [second])
  | .disjunction first second => do
      perform (.commands true [first])
      if (← getProcess).status != 0 then perform (.commands tested [second])
  | .background command => sendToBackground command
  | .group commands => perform (.commands tested commands)
  | .subshell line commands => do
      setLine line
      setStatus (← isolated perform true (perform (.commands tested commands)))
      checkFailure tested
  | .redirected line command redirections => do
      setLine line
      let ready ← keepingStreams do
        let ready ← redirect perform redirections
        if ready then perform (.commands tested [command]) else setStatus brokenStatus
        return ready
      unless ready do
        checkFailure tested
  | .condition test consequent alternative => do
      perform (.commands true test)
      if (← getProcess).status = 0 then perform (.commands tested consequent)
      else
        setStatus 0
        perform (.commands tested alternative)
  | .loop wanted test body => inLoop (performLoop perform tested wanted test body loopLimit 0)
  | .forEach line name words body => do
      setLine line
      let values ←
        match words with
        | none => pure (← getProcess).arguments
        | some words => pure (← words.mapM (expandFields perform)).flatten
      setStatus 0
      inLoop (performForEach perform tested name body values)
  | .choice line subject cases => do
      setLine line
      performChoice perform tested (← expandText perform subject) cases
  | .definition line name body => do
      setLine line
      modifyProcess fun process =>
        { process with
          functions := (name, body) :: process.functions.filter (·.1 != name), status := 0 }

def performAll (perform : Performer) (tested : Bool) : List Command → Run Unit
  | [] => return
  | command :: rest => do
      unless ← isOn 'n' do
        performCommand perform tested command
        performAll perform tested rest

/-! Scripts. -/

def performLines (perform : Performer) (tested isFile : Bool) : Nat → Source → Run Unit
  | 0, _ => throw .exhausted
  | fuel + 1, source => do
      let source := { source with aliases := (← getProcess).aliases }
      match readLine.run source with
      | .error error => do
          setLine error.line
          refuse ("Syntax error: " ++ error.text)
      | .ok (found, next) => do
          if isFile && (← isOn 'v') then
            writeError (String.ofList (source.rest.take (source.rest.length - next.rest.length)))
          match found with
          | none => return
          | some commands => do
              modifyProcess fun process => { process with documents := next.documents }
              unless ← isOn 'n' do
                perform (.commands tested commands)
              performLines perform tested isFile fuel next

def performScript (perform : Performer) (tested isFile : Bool) (text : String) : Run Unit := do
  let process ← getProcess
  let source :=
    { Source.ofChars text.toList with
      documents := process.documents, aliases := process.aliases }
  match readLine.run source with
  | .ok (none, _) => setStatus 0
  | _ => performLines perform tested isFile (text.length + 2) source

end StreamWidth.Shell
