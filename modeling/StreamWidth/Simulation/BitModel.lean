import StreamWidth.Simulation.Backend

/-!
The converter block without its hardware: the bits of the input move one after the other into words
of the output width. The block moves one word in each cycle on its busier side.
-/

namespace StreamWidth.BitModel

structure Statistics where
  inWords : Nat
  outWords : Nat
  cycles : Nat
  deriving DecidableEq

def statistics (inWords outWords : Nat) : Statistics :=
  ⟨inWords, outWords, max inWords outWords⟩

/-- The words that are complete, the last one first, and the one that is being filled. -/
structure Collector where
  complete : List Word
  current : Word
  fill : Nat

namespace Collector

def empty (width : Nat) : Collector :=
  ⟨[], .zero width, 0⟩

def take (width : Nat) (collector : Collector) (bit : Bool) : Except Failure Collector := do
  let current ← collector.current.setBit collector.fill bit
  if collector.fill + 1 = width then
    return ⟨current :: collector.complete, .zero width, 0⟩
  return ⟨collector.complete, current, collector.fill + 1⟩

def takeWord (width count : Nat) (collector : Collector) (word : Word) :
    Except Failure Collector :=
  (List.range count).foldlM
    (fun collector index => do collector.take width (← word.bit index)) collector

end Collector

def collect (request : SimulationRequest) : Except Failure (List Word) := do
  let collector ← request.words.foldlM (Collector.takeWord request.outWidth request.inWidth)
    (Collector.empty request.outWidth)
  return collector.complete.reverse

def ofFailure : Failure → SimulationError
  | .fault cause => .fault cause
  | failure => .failed (.other failure.message)

def bitLimit : Nat :=
  2 ^ 64

def convert (request : SimulationRequest) : SimulationResult :=
  if request.inWidth = 0 ∨ request.outWidth = 0 then .error (.failed .zeroWidth)
  else
    match request.words.find? (·.width != request.inWidth) with
    | some word => .error (.failed (.wordWidth word.width request.inWidth))
    | none =>
        let bits := request.words.length * request.inWidth
        if bitLimit ≤ bits then .error (.fault .integerOverflow)
        else if bits % request.outWidth ≠ 0 then
          .error (.failed (.partialWord bits request.outWidth))
        else (collect request).mapError ofFailure

def run (files : FileTree) (request : SimulationRequest) : SimulationResult :=
  if files.isFile request.artifact then convert request
  else .error (.artifactMissing request.artifact)

/-- Remembers the statistics of the last run that succeeded. -/
def backend : Backend (Option Statistics) where
  name := "behavioural"
  simulate world request :=
    match run world.files request with
    | .ok words =>
        (.ok words, ⟨world.files, some (statistics request.words.length words.length)⟩)
    | .error failure => (.error failure, world)

end StreamWidth.BitModel
