import StreamWidth.Shell.Builtins.Variables

/-!
Showing and moving the limits of a process.
-/

namespace StreamWidth.Shell

def limitLetters : List Char :=
  ['H', 'S', 'a'] ++ Limit.usual.map (·.letter)

def limitValue (limit : Limit) (text : String) : Run (Option Nat) := do
  if text == "unlimited" then return none
  else if text.toList.all Char.isDigit then
    return some (((Text.number? 10 text.toList).getD 0) * limit.unit)
  else refuse "bad number"

def moveLimit (limit : Limit) (isSoft isHard : Bool) (text : String) : Run Nat := do
  match limit.moved? isSoft isHard (← limitValue limit text) with
  | some moved => do
      modifyProcess fun process => { process with
        limits := process.limits.map fun other =>
          if other.letter == moved.letter then moved else other }
      return 0
  | none => refuse "error setting limit (Invalid argument)"

def changeLimits : Builtin := fun arguments => do
  let (letters, rest) ← options limitLetters arguments
  let sides := letters.filter fun letter => letter == 'H' || letter == 'S'
  let isHard := sides.getLast? == some 'H'
  let limits := (← getProcess).limits
  let shown := (letters.filter fun letter => letter != 'H' && letter != 'S').getLast?.getD 'f'
  let showsAll := letters.contains 'a'
  match rest, limits.find? (·.letter == shown) with
  | [], limit? =>
      if showsAll then
        print (String.join (limits.map fun limit =>
          padRight 20 limit.title ++ " " ++ limit.text isHard ++ "\n"))
      else
        match limit? with
        | some limit => print (limit.text isHard ++ "\n")
        | none => return 0
  | [text], some limit =>
      if showsAll then refuse "too many arguments"
      else
        let either := sides.isEmpty
        moveLimit limit (either || !isHard) (either || isHard) text
  | _, _ => refuse "too many arguments"

end StreamWidth.Shell
