/-!
Commands of shell scripts as they are read: words whose parts are still to be expanded, redirections
and the commands built from them.
-/

namespace StreamWidth.Shell

/-- What becomes of the value of a parameter. With `colon` an empty value counts as missing. -/
inductive Change
  | plain
  | length
  | ifMissing (colon : Bool)
  | assignMissing (colon : Bool)
  | refuseMissing (colon : Bool)
  | ifPresent (colon : Bool)
  | dropFront (longest : Bool)
  | dropBack (longest : Bool)
  | malformed

inductive Transfer
  | input
  | output
  | replace
  | append
  | update
  | copyInput
  | copyOutput

mutual

/-- Parts of a word. Quoted parts are neither split into fields nor read as patterns. -/
inductive Part
  | bare (text : String)
  | quoted (text : String)
  | parameter (quoted : Bool) (name : String) (change : Change) (argument : List Part)
  | output (quoted : Bool) (commands : List Command)
  | arithmetic (quoted : Bool) (expression : List Part)

inductive Redirection
  | file (stream : Nat) (transfer : Transfer) (target : List Part)
  | document (stream : Nat) (number : Nat)

inductive Command
  | simple (line : Nat) (assignments : List (String × List Part)) (words : List (List Part))
      (redirections : List Redirection)
  | pipeline (commands : List Command)
  | negation (command : Command)
  | conjunction (first second : Command)
  | disjunction (first second : Command)
  | background (command : Command)
  | group (commands : List Command)
  | subshell (line : Nat) (commands : List Command)
  | redirected (line : Nat) (command : Command) (redirections : List Redirection)
  | condition (test consequent alternative : List Command)
  | loop (wanted : Bool) (test body : List Command)
  /-- Without words the positional parameters are taken. -/
  | forEach (line : Nat) (name : String) (words : Option (List (List Part)))
      (body : List Command)
  | choice (line : Nat) (subject : List Part) (cases : List (List (List Part) × List Command))
  | definition (line : Nat) (name : String) (body : Command)

end

abbrev ShellWord :=
  List Part

def specialNames : List String :=
  [".", ":", "break", "continue", "eval", "exec", "exit", "export", "local", "readonly", "return",
    "set", "shift", "times", "trap", "unset"]

end StreamWidth.Shell
