import StreamWidth.Simulation.Backend

/-!
A backend that gives prepared replies in turn and remembers what it was last asked.
-/

namespace StreamWidth.Replies

structure State where
  pending : List SimulationResult
  last : Option SimulationRequest

def noneLeft : SimulationResult :=
  .error (.failed (.other "no reply left"))

def backend : Backend State where
  name := "canned"
  simulate world request :=
    match world.memory.pending with
    | [] => (noneLeft, ⟨world.files, [], some request⟩)
    | reply :: rest => (reply, ⟨world.files, rest, some request⟩)

end StreamWidth.Replies
