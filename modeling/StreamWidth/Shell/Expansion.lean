import StreamWidth.Shell.Arithmetic
import StreamWidth.Shell.Fields
import StreamWidth.Shell.Subprocess

/-!
What words stand for: parameters, the output of commands, and sums.
-/

namespace StreamWidth.Shell

def parameterValue (name : String) : Run (Option String) := do
  let process ← getProcess
  match name with
  | "#" => return some (toString process.arguments.length)
  | "?" => return some (toString process.status)
  | "-" => return some (String.ofList process.options.reverse)
  | "$" => return some (toString process.number)
  | "!" => return process.latest.map toString
  | "0" => return some process.name
  | _ =>
      match name.toNat? with
      | some number => return process.arguments[number - 1]?
      | none => lookUp name

def isList (name : String) : Bool :=
  name == "@" || name == "*"

def joint : Run String :=
  return String.ofList ((← separators).take 1)

def plainGlyphs (quoted : Bool) (name value : String) : Run (List Glyph) := do
  let origin := if quoted then Origin.quoted else .expanded
  if isList name then
    let arguments := (← getProcess).arguments
    if quoted && name == "*" then
      return origin.glyphs ((← joint).intercalate arguments)
    else return joinGlyphs (arguments.map origin.glyphs)
  else return origin.glyphs value

def refuseMissing {α : Type} (name : String) (colon : Bool) (text : Option String) : Run α :=
  refuse (name ++ ": " ++
    text.getD (if colon then "parameter not set or null" else "parameter not set"))

def refuseSum {α : Type} (expression : String) : SumError → Run α
  | .broken cause => refuse ("arithmetic expression: " ++ cause ++ ": \"" ++ expression ++ "\"")
  | .illegalNumber text => refuse ("Illegal number: " ++ text)

def evaluateSum (expression : String) : Run Int := do
  let bindings := (← getProcess).bindings
  let value (name : String) : Option String := (bindings.get? name).bind (·.value)
  match Calculation.evaluate value expression with
  | .ok (value, assigned) => do
      for (name, value) in assigned.reverse do
        assign name (toString value)
      return value
  | .error error => refuseSum expression error

def withoutLastNewlines (text : String) : String :=
  let chars := text.toList.filter (· != '\x00')
  String.ofList (chars.reverse.dropWhile (· == '\n')).reverse

def outputOf (perform : Performer) (commands : List Command) : Run String := do
  let (status, output) ← capture perform (perform (.commands false commands))
  modifyProcess fun process => { process with substituted := status }
  return withoutLastNewlines output

def changedGlyphs (quoted : Bool) (name : String) (value : Option String) (hasArgument : Bool)
    (argument : Run (List Glyph)) :
    Change → Run (List Glyph)
  | .plain => do
      if value.isNone && !isList name && (← isOn 'u') then refuseMissing name false none
      plainGlyphs quoted name (value.getD "")
  | .length => do
      if value.isNone && !isList name && (← isOn 'u') then refuseMissing name false none
      let arguments := (← getProcess).arguments
      let between ← joint
      let text := if isList name then between.intercalate arguments else value.getD ""
      let count := text.length
      return (if quoted then Origin.quoted else .expanded).glyphs (toString count)
  | .ifMissing colon => do
      if isMissing colon then inner else plainGlyphs quoted name (value.getD "")
  | .assignMissing colon => do
      if isMissing colon then
        let text := textOfGlyphs (← argument)
        if name.toList.any fun c => !isNameChar c || name.toList.head?.any Char.isDigit then
          refuse (name ++ ": bad variable name")
        assign name text
        plainGlyphs quoted name text
      else plainGlyphs quoted name (value.getD "")
  | .refuseMissing colon => do
      if isMissing colon then
        let text := textOfGlyphs (← argument)
        refuseMissing name colon (if hasArgument then some text else none)
      else plainGlyphs quoted name (value.getD "")
  | .ifPresent colon => do
      if isMissing colon then return if quoted then [.nothing] else [] else inner
  | .dropFront longest => do
      cutTo fun pattern text => Shell.dropFront longest pattern text
  | .dropBack longest => do
      cutTo fun pattern text => Shell.dropBack longest pattern text
  | .malformed => refuse "Bad substitution"
where
  isMissing (colon : Bool) : Bool :=
    value.isNone || (colon && value == some "")
  inner : Run (List Glyph) := do
    let glyphs ← argument
    if quoted then return if glyphs.isEmpty then [.nothing] else glyphs
    else return glyphs.map Glyph.asExpanded
  cutTo (shorten : List Mark → List Char → List Char) : Run (List Glyph) := do
    if value.isNone && (← isOn 'u') then refuseMissing name false none
    let text := String.ofList (shorten (marks (← argument)) (value.getD "").toList)
    return (if quoted then Origin.quoted else .expanded).glyphs text

def decidingValue (name : String) : Run (Option String) := do
  if isList name then
    let arguments := (← getProcess).arguments
    let joined := (← joint).intercalate arguments
    return if arguments.isEmpty then none else some joined
  else parameterValue name

/-! Tildes, which stand for home directories. -/

/-- The directory of a user; without a name it is a matter of the environment. Only the root has one. -/
def homeOf (name : String) : Run (Option String) := do
  if name.isEmpty then lookUp "HOME" else return if name == "root" then some "/root" else none

def homeGlyphs (closed : Bool) (text : String) : Run (List Glyph) := do
  match text.toList with
  | '~' :: chars =>
      let name := chars.takeWhile (· != '/')
      let rest := chars.drop name.length
      if rest.isEmpty && !closed then return Origin.written.glyphs text
      match ← homeOf (String.ofList name) with
      | some home =>
          return Origin.quoted.glyphs home ++ Origin.written.glyphs (String.ofList rest)
      | none => return Origin.written.glyphs text
  | _ => return Origin.written.glyphs text

def homesBetween (closed : Bool) : List String → Run (List Glyph)
  | [] => return []
  | [last] => homeGlyphs closed last
  | text :: rest => do
      let glyphs ← homeGlyphs true text
      return glyphs ++ Origin.written.glyphs ":" ++ (← homesBetween closed rest)

/-- Where a tilde stands for a directory. -/
inductive Homes
  | first
  | each

/-- The glyphs of text that is not quoted, at the start of a word or not, and at its end or not. -/
def bareGlyphs (homes : Homes) (atStart atEnd : Bool) (text : String) : Run (List Glyph) := do
  match homes with
  | .first => if atStart then homeGlyphs atEnd text else return Origin.written.glyphs text
  | .each =>
      match text.splitOn ":" with
      | [] => return []
      | start :: rest => do
          let single := rest.isEmpty
          let glyphs ←
            if atStart then homeGlyphs (atEnd || !single) start
            else pure (Origin.written.glyphs start)
          if single then return glyphs
          return glyphs ++ Origin.written.glyphs ":" ++ (← homesBetween atEnd rest)

def Homes.inArgument (homes : Homes) : Change → Homes
  | .ifMissing _ | .ifPresent _ => homes
  | _ => first

mutual

def expandPart (perform : Performer) (homes : Homes) (atStart atEnd : Bool) :
    Part → Run (List Glyph)
  | .bare text => bareGlyphs homes atStart atEnd text
  | .quoted text => return Origin.quoted.glyphs text
  | .parameter quoted name change argument => do
      changedGlyphs quoted name (← decidingValue name) (!argument.isEmpty)
        (expandParts perform (homes.inArgument change) true argument) change
  | .output quoted commands => do
      let text ← outputOf perform commands
      return (if quoted then Origin.quoted else .expanded).glyphs text
  | .arithmetic quoted expression => do
      let value ← evaluateSum (textOfGlyphs (← expandParts perform .first true expression))
      return (if quoted then Origin.quoted else .expanded).glyphs (toString value)

def expandParts (perform : Performer) (homes : Homes) (atStart : Bool) :
    List Part → Run (List Glyph)
  | [] => return []
  | part :: rest => do
      let glyphs ← expandPart perform homes atStart rest.isEmpty part
      return glyphs ++ (← expandParts perform homes false rest)

end

def expandWord (perform : Performer) (word : ShellWord) : Run (List Glyph) :=
  expandParts perform .first true word

def expandAssigned (perform : Performer) (word : ShellWord) : Run String :=
  return textOfGlyphs (← expandParts perform .each true word)

def expandText (perform : Performer) (word : ShellWord) : Run String :=
  return textOfGlyphs (← expandWord perform word)

def expandFields (perform : Performer) (word : ShellWord) : Run (List String) := do
  let glyphs ← expandWord perform word
  let findFiles := !(← isOn 'f')
  let files := (← get).files
  return (splitFields (← separators) glyphs).flatMap (fieldTexts files findFiles)

end StreamWidth.Shell
