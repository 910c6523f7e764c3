import StreamWidth.Shell.Regex.Reader
import StreamWidth.Shell.Utilities.Lines

/-!
Finding the lines that match a regular expression.
-/

namespace StreamWidth.Shell

structure GrepStyle where
  regex : Regex
  ignoreCase : Bool
  wholeWords : Bool
  wholeLines : Bool
  inverted : Bool

namespace GrepStyle

def matchFrom? (style : GrepStyle) (subject : Regex.Subject) : Nat → Nat → Option RegexMatch
  | 0, _ => none
  | fuel + 1, place =>
      match style.regex.findFrom subject place with
      | none => none
      | some found =>
          let isWord := !subject.isWordBefore found.first && !subject.isWordAt found.last
          let isLine := found.first = 0 && found.last = subject.text.size
          if (style.wholeWords && !isWord) || (style.wholeLines && !isLine) then
            style.matchFrom? subject fuel (found.first + 1)
          else some found

def matchIn? (style : GrepStyle) (line : String) (place : Nat) : Option RegexMatch :=
  style.matchFrom? (style.regex.subject style.ignoreCase line.toList) (line.length + 2) place

def selects (style : GrepStyle) (line : String) : Bool :=
  (style.matchIn? line 0).isSome != style.inverted

def matchesIn (style : GrepStyle) (line : String) : Nat → Nat → List String
  | 0, _ => []
  | fuel + 1, place =>
      match style.matchIn? line place with
      | none => []
      | some found =>
          if found.last = found.first then style.matchesIn line fuel (found.last + 1)
          else
            String.ofList ((line.toList.take found.last).drop found.first) ::
              style.matchesIn line fuel found.last

end GrepStyle

def grepTrouble : Nat :=
  2

/-- One expression that matches what any of the patterns does. -/
def anyRegex (extended fixed : Bool) (patterns : List String) : Except String Regex := do
  let regexes ← patterns.mapM fun pattern =>
    if fixed then .ok (Regex.literal pattern.toList) else Regex.parse extended false pattern.toList
  match regexes with
  | [] => return .oneOf false []
  | first :: rest => return rest.foldl .either first

/-- What is shown of the lines of a text, each with its number, and how many of them are selected. -/
def grepShown (arguments : Arguments) (style : GrepStyle) (name : String) (texts : List String) :
    List String × Nat :=
  let selected := ((texts.zipIdx 1).filter fun item => style.selects item.1)
  let selected := (((arguments.value? 'm').bind (·.toNat?)).map selected.take).getD selected
  let shown := selected.flatMap fun (text, number) =>
    let lead := name ++ if arguments.has 'n' then toString number ++ ":" else ""
    let parts :=
      if !arguments.has 'o' then [text]
      else if style.inverted then []
      else style.matchesIn text (text.length + 2) 0
    parts.map (lead ++ ·)
  (shown, selected.length)

def grepOperands (task : Task) (arguments : Arguments) (style : GrepStyle) (operands : List String) :
    Working Bool := do
  let mut any := false
  for (path, text) in task.readAll operands do
    let path := if path == "-" then "(standard input)" else path
    match text with
    | .error error =>
        if arguments.has 's' then modify fun work => { work with failed := true }
        else Working.complain task (path ++ ": " ++ error.text)
    | .ok text => do
        let isNamed := arguments.has 'H' || (1 < operands.length && !arguments.has 'h')
        let name := if isNamed then path ++ ":" else ""
        let (shown, count) := grepShown arguments style name (lines text)
        any := any || 0 < count
        if arguments.has 'q' then pure ()
        else if arguments.has 'l' then
          if 0 < count then
            Working.put (path ++ "\n")
        else if arguments.has 'c' then Working.put (name ++ toString count ++ "\n")
        else Working.put (unlines shown)
  return any

def grepWith (task : Task) (arguments : Arguments) (patterns operands : List String) : Report :=
  match anyRegex (arguments.has 'E') (arguments.has 'F') patterns with
  | .error text => task.ending [task.complaint text] grepTrouble
  | .ok regex =>
      let style : GrepStyle := {
        regex
        ignoreCase := arguments.has 'i'
        wholeWords := arguments.has 'w'
        wholeLines := arguments.has 'x'
        inverted := arguments.has 'v' }
      let (found, work) := (grepOperands task arguments style operands).run ⟨task.files, [], false⟩
      -- Trouble counts unless nothing but the status is asked for and something was found.
      let status :=
        if arguments.has 'q' && found then 0
        else if work.failed then grepTrouble
        else if found then 0
        else 1
      let report : Report := ⟨work.said.reverse, status, work.files, task.input⟩
      if operands.isEmpty || operands.contains "-" then report.reading else report

def grepUtility : Utility := fun task =>
  let usage := "Usage: " ++ task.name ++ " [OPTION]... PATTERNS [FILE]...\nTry '" ++ task.name ++
    " --help' for more information.\n"
  let table : OptionTable :=
    .of ['E', 'F', 'G', 'i', 'v', 'w', 'x', 'c', 'l', 'n', 'o', 'q', 's', 'h', 'H'] ['e', 'm']
      [("extended-regexp", 'E'), ("fixed-strings", 'F'), ("basic-regexp", 'G'), ("regexp", 'e'),
        ("ignore-case", 'i'), ("invert-match", 'v'), ("word-regexp", 'w'), ("line-regexp", 'x'),
        ("count", 'c'), ("files-with-matches", 'l'), ("max-count", 'm'), ("only-matching", 'o'),
        ("quiet", 'q'), ("silent", 'q'), ("no-messages", 's'), ("line-number", 'n'),
        ("no-filename", 'h'), ("with-filename", 'H')]
  match table.read task.arguments with
  | .error text => task.ending [task.complaint text, .complaint usage] grepTrouble
  | .ok arguments =>
      let given := (arguments.given.filter (·.1 == 'e')).flatMap (·.2.splitOn "\n")
      match given, arguments.operands with
      | [], [] => task.ending [.complaint usage] grepTrouble
      | [], pattern :: operands => grepWith task arguments (pattern.splitOn "\n") operands
      | patterns, operands => grepWith task arguments patterns operands

end StreamWidth.Shell
