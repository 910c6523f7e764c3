import StreamWidth.Failure

/-!
The two ways to evaluate a converter.
-/

namespace StreamWidth

inductive ExecutionMode
  | functional
  | cosimulation
  deriving DecidableEq

namespace ExecutionMode

def name : ExecutionMode → String
  | functional => "functional"
  | cosimulation => "cosim"

def ofTag (tag : String) : Except Failure ExecutionMode :=
  if tag = "functional" ∨ tag = "npysim" then .ok functional
  else if tag = "cosim" ∨ tag = "rtlsim" then .ok cosimulation
  else .error (.validation (.executionMode tag))

end ExecutionMode

end StreamWidth
