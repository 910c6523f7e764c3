import StreamWidth.Files.Tree
import StreamWidth.Simulation.Error
import StreamWidth.Word

/-!
Simulations of generated hardware. A backend takes the words that go in and answers with the words
that come out; what else it does shows in the files and in what it remembers.
-/

namespace StreamWidth

structure SimulationRequest where
  artifact : String
  words : List Word
  inWidth : Nat
  outWidth : Nat
  expected : Nat
  deriving DecidableEq

abbrev SimulationResult :=
  Except SimulationError (List Word)

/-- Where simulations run: the files, and what a backend remembers. -/
structure World (State : Type) where
  files : FileTree
  memory : State

structure Backend (State : Type) where
  name : String
  simulate : World State → SimulationRequest → SimulationResult × World State

end StreamWidth
