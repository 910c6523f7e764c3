import StreamWidth.Shell.Machine

/-!
Processes within a script: what they are asked to do, how they end, and what signals do to them.
-/

namespace StreamWidth.Shell

/-- How long those in front wait for the processes in the background. -/
inductive Patience
  | untilTime (time : Nat)
  | forProcess (number : Nat)
  | forAll
  | forStream (index : Nat)
  | forContent (location : Location)

/-- Something that a process is asked to do. -/
inductive Job
  | commands (tested : Bool) (commands : List Command)
  | script (tested isFile : Bool) (text : String)
  | program (places : String) (words : List String)
  | others (patience : Patience)

abbrev Performer :=
  Job → Run Unit

def signalNames : List String :=
  ["HUP", "INT", "QUIT", "ILL", "TRAP", "ABRT", "BUS", "FPE", "KILL", "USR1", "SEGV", "USR2", "PIPE",
    "ALRM", "TERM", "STKFLT", "CHLD", "CONT", "STOP", "TSTP", "TTIN", "TTOU", "URG", "XCPU", "XFSZ",
    "VTALRM", "PROF", "WINCH", "POLL", "PWR", "SYS"]

def signalName? (number : Nat) : Option String :=
  if number = 0 then some "EXIT" else signalNames[number - 1]?

def upper (text : String) : String :=
  String.ofList (text.toList.map Char.toUpper)

def signalNumber? (text : String) : Option Nat :=
  if !text.isEmpty && text.toList.all Char.isDigit then
    text.toNat?.bind fun number => if number ≤ 64 then some number else none
  else if upper text == "EXIT" then some 0
  else (signalNames.findIdx? (· == upper text)).map (· + 1)

def isHarmless (signal : Nat) : Bool :=
  signalName? signal |>.any ["CHLD", "CONT", "URG", "WINCH"].contains

def isFinal (signal : Nat) : Bool :=
  signalName? signal == some "KILL"

def signalText? (signal : Nat) : Option String :=
  match signalName? signal with
  | some "HUP" => some "Hangup"
  | some "QUIT" => some "Quit"
  | some "ILL" => some "Illegal instruction"
  | some "TRAP" => some "Trace/breakpoint trap"
  | some "ABRT" => some "Aborted"
  | some "BUS" => some "Bus error"
  | some "FPE" => some "Floating point exception"
  | some "KILL" => some "Killed"
  | some "USR1" => some "User defined signal 1"
  | some "SEGV" => some "Segmentation fault"
  | some "USR2" => some "User defined signal 2"
  | some "ALRM" => some "Alarm clock"
  | some "TERM" => some "Terminated"
  | _ => none

def signalStatus (signal : Nat) : Nat :=
  128 + signal

def statusRange : Nat :=
  256

/-- Carries out what is trapped, without a change of the status. -/
def trapped (perform : Performer) (text : String) : Run Unit := do
  let status := (← getProcess).status
  perform (.script true false text)
  setStatus status

def Process.ignores (process : Process) (signal : Nat) : Bool :=
  signal == 0 || !isFinal signal &&
    (process.ignored.contains signal || process.traps.contains (signal, "") ||
      isHarmless signal && process.traps.all (·.1 != signal))

def Process.trap? (process : Process) (signal : Nat) : Option String :=
  if isFinal signal || process.ignored.contains signal then none
  else (process.traps.find? (·.1 == signal)).map (·.2)

def receive (perform : Performer) (signal : Nat) : Run Unit := do
  let process ← getProcess
  unless process.ignores signal do
    match process.trap? signal with
    | some text => trapped perform text
    | none => throw (.killed signal none)

/-- Hands over the signals that others have sent to the process. The last of them is the answer. -/
def receiveSent (perform : Performer) : Run (Option Nat) := do
  let machine ← get
  if machine.process.isCopy then return none
  let (own, others) := machine.sent.partition (·.2 == machine.process.number)
  set { machine with sent := others }
  for (signal, _) in own do
    receive perform signal
  return (own.getLast?).map (·.1)

def untilEnd (perform : Performer) (action : Run Unit) : Run Unit := do
  try action
  catch
    | .killed signal group => throw (.killed signal group)
    | .exhausted => throw .exhausted
    | .loop _ _ => setStatus 0
    | _ => pure ()
  match (← getProcess).traps.find? (·.1 == 0) with
  | none => pure ()
  | some (_, text) => do
      modifyProcess fun process =>
        { process with traps := process.traps.filter (·.1 != 0), loopDepth := 0, builtin := none }
      try trapped perform text
      catch
        | .killed signal group => throw (.killed signal group)
        | .exhausted => throw .exhausted
        | _ => pure ()

/-- A process that is split off. Only what is ignored stays so in it, and it has nobody to wait for.
Who leaves a loop in it that others go round ends the process. -/
def Process.copied (process : Process) : Process :=
  { process with
    traps := process.traps.filter (·.2.isEmpty), children := [], isCopy := true }

def letOthers (perform : Performer) (patience : Patience) : Run Unit := do
  unless (← get).companions.isEmpty do
    perform (.others patience)

inductive Outcome
  | exited (status : Nat)
  | stopped (signal : Nat)

def Outcome.status : Outcome → Nat
  | .exited status => status
  | .stopped signal => signalStatus signal

def learnEnds : Run Unit :=
  modify fun machine =>
    let children := machine.process.children
    { machine with
      companions := machine.companions.map fun item =>
        if item.status.isSome && children.any (·.number == item.number) then
          { item with isKnown := true }
        else item
      process := { machine.process with children := children.filter (!·.isWaited) } }

def handles (signal group : Nat) : Run Bool := do
  let machine ← get
  return machine.deadlines.any (·.number == group) && (machine.process.trap? signal).isSome

/-- Runs something in a process of its own; what that does to itself is forgotten. A signal that comes
to this process at the same time is told as well. -/
def separately (perform : Performer) (action : Run Unit) : Run (Outcome × Option Nat) := do
  let outer ← get
  let restore : Run Unit :=
    modify fun machine =>
      { machine with
        process := outer.process
        files :=
          { machine.files with
            workingDirectory := outer.files.workingDirectory, mask := outer.files.mask } }
  try
    untilEnd perform do
      modifyProcess Process.copied
      action
    let status := (← getProcess).status % statusRange
    restore
    return (.exited status, none)
  catch
    | .killed signal none => do
        restore
        return (.stopped signal, none)
    | .killed signal (some group) => do
        restore
        if ← handles signal group then return (.stopped signal, some signal)
        else throw (.killed signal (some group))
    | other => throw other

def goOn (perform : Performer) (own : Option Nat) : Run Unit := do
  learnEnds
  match own with
  | some signal => receive perform signal
  | none => pure ()
  let _ ← receiveSent perform

/-- Runs something in a process of its own. With `reported` it is told when a signal stops it. -/
def isolated (perform : Performer) (reported : Bool) (action : Run Unit) : Run Nat := do
  let (outcome, own) ← separately perform action
  match reported, outcome with
  | true, .stopped signal =>
      match signalText? signal with
      | some text => writeError (text ++ "\n")
      | none => pure ()
  | _, _ => pure ()
  goOn perform own
  return outcome.status

def capture (perform : Performer) (action : Run Unit) : Run (Nat × String) := do
  let ((outcome, own), text) ← capturing fun index => do
    let found ← separately perform action
    letOthers perform (.forStream index)
    return found
  goOn perform own
  return (outcome.status, text)

end StreamWidth.Shell
