import StreamWidth.Shell.Duration
import StreamWidth.Shell.Expansion

/-!
Processes in the background. They go on when those in front of them wait, the one that is due first
before all others, and each until it sleeps itself.
-/

namespace StreamWidth.Shell

/-- How many turns processes in the background get while somebody waits for them. -/
def turnLimit : Nat :=
  20000

def keyboardSignals : List Nat :=
  [2, 3]

def freeSlot (children : List Child) : Nat :=
  ((List.range children.length).find? fun slot => children.all (·.slot != slot + 1)).getD
    children.length + 1

def sendToBackground (command : Command) : Run Unit := do
  let index ← addStream ⟨.device .null, 0, false, true, true⟩
  let machine ← get
  let number := machine.nextNumber
  let process := machine.process
  let children := process.children.filter (!·.isWaited)
  let companion : Companion := {
    number
    process :=
      { process.copied with
        streams := (0, index) :: process.streams.filter (·.1 != 0)
        ignored := keyboardSignals ++ process.ignored }
    workingDirectory := machine.files.workingDirectory
    mask := machine.files.mask
    frames := [.run true command]
    wake := machine.clock
    signals := []
    status := none
    stopped := none
    isKnown := false }
  set { machine with
    nextNumber := number + 1
    companions := machine.companions ++ [companion]
    process :=
      { process with
        latest := some number
        children := ⟨freeSlot children, number, false⟩ :: children
        status := 0 } }

def isHarmlessWord (word : ShellWord) : Bool :=
  word.all fun part =>
    match part with
    | .bare _ | .quoted _ => true
    | .parameter _ _ .plain _ => true
    | _ => false

def sleepOf? (perform : Performer) (command : Command) : Run (Option Nat) := do
  match command with
  | .simple _ [] words _ =>
      if words.all isHarmlessWord then
        match (← words.mapM (expandFields perform)).flatten with
        | "sleep" :: first :: rest => return Duration.sum? (first :: rest)
        | _ => return none
      else return none
  | _ => return none

def runFrames (tested : Bool) (commands : List Command) : List Frame :=
  commands.map (Frame.run tested)

/-- The next round of a loop in the place of what is left of this one. -/
def nextRound : Frame → Frame
  | .decide wanted tested test body _ => .again wanted tested test body
  | frame => frame

def leaveLoop : Nat → Bool → List Frame → List Frame
  | _, _, [] => []
  | levels, again, frame :: rest =>
      match frame with
      | .again .. | .each .. | .decide .. =>
          if 1 < levels then leaveLoop (levels - 1) again rest
          else if again then nextRound frame :: rest
          else rest
      | _ => leaveLoop levels again rest

def readsOperands (words : List String) : Bool :=
  words.head?.any ["cat", "cmp", "comm", "cp", "cut", "diff", "expand", "fold", "grep", "head", "join",
    "nl", "od", "paste", "rev", "sed", "sort", "tac", "tail", "uniq", "wc"].contains

def isEmptyPipe (files : FileTree) (location : Location) : Bool :=
  match files.entry? location with
  | some (.pipe content _) => content.isEmpty
  | _ => false

def pipePause : Nat :=
  1000000

def readFiles (perform : Performer) (command : Command) : Run (List String) := do
  let targets (redirections : List Redirection) : Run (List String) := do
    let words := redirections.filterMap fun redirection =>
      match redirection with
      | .file _ .input target => if isHarmlessWord target then some target else none
      | _ => none
    return (← words.mapM (expandFields perform)).flatten
  match command with
  | .simple _ _ words redirections => do
      let paths ← targets redirections
      if words.all isHarmlessWord then
        let fields := (← words.mapM (expandFields perform)).flatten
        return paths ++ (if readsOperands fields then fields.drop 1 else [])
      else return paths
  | .redirected _ _ redirections => targets redirections
  | _ => return []

def wouldWait (perform : Performer) (command : Command) : Run Bool := do
  let paths ← readFiles perform command
  let files := (← get).files
  return paths.any fun path =>
    match files.locate (decode path) with
    | .ok location => isEmptyPipe files location
    | .error _ => false

/-- What a frame does: some time to sleep, and the frames that take its place. -/
def stepFrame (perform : Performer) (isLast : Bool) : Frame → Run (Option Nat × List Frame)
  | .run tested command => do
      match ← sleepOf? perform command with
      | some time => do
          setStatus 0
          return (some time, [])
      | none =>
          if ← wouldWait perform command then return (some pipePause, [.run tested command])
          match command with
          | .group commands => return (none, runFrames tested commands)
          | .subshell _ commands =>
              if isLast then return (none, runFrames tested commands) else whole tested command
          | .conjunction first second => return (none, [.run true first, .next true tested second])
          | .disjunction first second => return (none, [.run true first, .next false tested second])
          | .condition test consequent alternative =>
              return (none, runFrames true test ++ [.choose tested consequent alternative])
          | .loop wanted test body =>
              return (none, runFrames true test ++ [.decide wanted tested test body 0])
          | .forEach _ name (some words) body => do
              let values := (← words.mapM (expandFields perform)).flatten
              setStatus 0
              return (none, [.each tested name values body])
          | _ => whole tested command
  | .next wanted tested command => do
      if ((← getProcess).status == 0) == wanted then return (none, [.run tested command])
      else return (none, [])
  | .choose tested consequent alternative => do
      if (← getProcess).status = 0 then return (none, runFrames tested consequent)
      else do
        setStatus 0
        return (none, runFrames tested alternative)
  | .decide wanted tested test body last => do
      if ((← getProcess).status == 0) == wanted then
        return (none, runFrames tested body ++ [.again wanted tested test body])
      else do
        setStatus last
        return (none, [])
  | .again wanted tested test body => do
      let last := (← getProcess).status
      return (none, runFrames true test ++ [.decide wanted tested test body last])
  | .each _ _ [] _ => return (none, [])
  | .each tested name (value :: values) body => do
      assign name value
      return (none, runFrames tested body ++ [.each tested name values body])
where
  whole (tested : Bool) (command : Command) : Run (Option Nat × List Frame) := do
    perform (.commands tested [command])
    return (none, [])

def isLoopFrame : Frame → Bool
  | .again .. | .each .. | .decide .. => true
  | _ => false

/-- Does what is left to do until time passes. What remains is the answer. -/
def runSlice (perform : Performer) : Nat → List Frame → Run (List Frame)
  | 0, frames => return frames
  | _, [] => return []
  | fuel + 1, frame :: rest => do
      let begun := (← get).clock
      modifyProcess fun process =>
        { process with loopDepth := (frame :: rest).countP isLoopFrame }
      let next ←
        try
          let (time, frames) ← stepFrame perform rest.isEmpty frame
          match time with
          | some time => modify fun machine => { machine with clock := machine.clock + time }
          | none => pure ()
          pure (frames ++ rest)
        catch
          | .loop levels again => do
              setStatus 0
              pure (leaveLoop levels again (frame :: rest))
          | other => throw other
      if begun < (← get).clock && !next.isEmpty then return next
      else runSlice perform fuel next

def receiveAll (perform : Performer) : List Nat → Run Unit
  | [] => return
  | signal :: rest => do
      receive perform signal
      receiveAll perform rest

def endOfTurn (perform : Performer) (companion : Companion) : Run (List Frame) := do
  let mut rest := []
  try
    receiveAll perform companion.signals
    rest ← runSlice perform turnLimit companion.frames
  catch
    | .exit | .refused | .giveBack => pure ()
    | other => throw other
  if rest.isEmpty then untilEnd perform (pure ())
  return rest

/-- Gives a process in the background its turn. The answer is when the turn ended. -/
def takeTurn (perform : Performer) (companion : Companion) : Run Nat := do
  let outer ← get
  let others := outer.companions.filter (·.number != companion.number)
  set { outer with
    process := companion.process
    clock := max outer.clock companion.wake
    deadlines := []
    companions := others
    files :=
      { outer.files with workingDirectory := companion.workingDirectory, mask := companion.mask } }
  let (frames, stopped) ←
    try
      let frames ← endOfTurn perform companion
      pure (frames, none)
    catch
      | .killed signal _ => pure ([], some signal)
      | other => throw other
  let inner ← get
  let status := (stopped.map signalStatus).getD (inner.process.status % statusRange)
  let changed : Companion := { companion with
    process := inner.process
    workingDirectory := inner.files.workingDirectory
    mask := inner.files.mask
    frames
    wake := inner.clock
    signals := []
    status := if frames.isEmpty then some status else none
    stopped }
  set { inner with
    process := outer.process
    clock := outer.clock
    deadlines := outer.deadlines
    companions := inner.companions ++ [changed]
    files :=
      { inner.files with
        workingDirectory := outer.files.workingDirectory, mask := outer.files.mask } }
  return inner.clock

def firstDue? (companions : List Companion) : Option Companion :=
  companions.foldl (fun best companion =>
    match companion.status, best with
    | some _, _ => best
    | none, some found => if companion.wake < found.wake then some companion else best
    | none, none => some companion) none

def hasOpen (index : Nat) (companion : Companion) : Bool :=
  companion.status.isNone && companion.process.streams.any (·.2 == index)

def Patience.lasts (patience : Patience) (machine : Machine) (next : Companion) : Bool :=
  let companions := machine.companions
  match patience with
  | .untilTime time => next.wake < time
  | .forProcess number =>
      next.wake < machine.clock ||
        companions.any fun item => item.number == number && item.status.isNone
  | .forAll => true
  | .forStream index => companions.any (hasOpen index)
  | .forContent location => isEmptyPipe machine.files location

def Machine.deadline? (machine : Machine) (time : Nat) : Option Deadline :=
  let due := machine.deadlines.filter fun item => !item.isPast && item.time ≤ time
  (due.mergeSort fun left right => left.time ≤ right.time).head?

def meet (perform : Performer) (deadline : Deadline) : Run Unit := do
  modify fun machine =>
    { machine with
      clock := max machine.clock deadline.time
      deadlines := machine.deadlines.map fun item =>
        if item.number == deadline.number && item.time == deadline.time then
          { item with isPast := true }
        else item }
  let process ← getProcess
  unless process.ignores deadline.signal do
    modify fun machine => { machine with interruption := some deadline.signal }
    if (process.trap? deadline.signal).isSome then receive perform deadline.signal
    else throw (.killed deadline.signal (some deadline.number))

/-- Lets the processes in the background go on. Those in front have then waited as long. -/
def waitForOthers (perform : Performer) (patience : Patience) : Nat → Run Unit
  | 0 => throw .exhausted
  | fuel + 1 => do
      let machine ← get
      match firstDue? machine.companions with
      | none => return
      | some next =>
          if patience.lasts machine next then
            let time := max machine.clock next.wake
            match machine.deadline? time with
            | some deadline => do
                meet perform deadline
                if (← getProcess).ignores deadline.signal then waitForOthers perform patience fuel
            | none => do
                modify fun machine => { machine with clock := time }
                let ended ← takeTurn perform next
                let isOver :=
                  ((← get).companions.find? (·.number == next.number)).any (·.status.isSome)
                unless patience matches .untilTime _ do
                  if isOver then
                    modify fun machine => { machine with clock := max machine.clock ended }
                match ← if patience matches .forStream _ then pure none else receiveSent perform with
                | some signal =>
                    unless isOver do
                      modify fun machine => { machine with interruption := some signal }
                | none => waitForOthers perform patience fuel

def letTimePassUntil (perform : Performer) (goal : Nat) : Nat → Run Unit
  | 0 => return
  | fuel + 1 => do
      match (← get).deadline? goal with
      | some deadline => do
          letOthers perform (.untilTime deadline.time)
          meet perform deadline
          letTimePassUntil perform goal fuel
      | none => do
          letOthers perform (.untilTime goal)
          modify fun machine => { machine with clock := max machine.clock goal }

def letTimePass (perform : Performer) (time : Nat) : Run Unit := do
  let machine ← get
  letTimePassUntil perform (machine.clock + time) (machine.deadlines.length + 1)

end StreamWidth.Shell
