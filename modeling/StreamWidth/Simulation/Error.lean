import StreamWidth.Fault
import StreamWidth.Text.Quoted

/-!
Ways in which a simulation yields no words.
-/

namespace StreamWidth

inductive SimulationFailure
  | zeroWidth
  | wordWidth (actual expected : Nat)
  | partialWord (bits width : Nat)
  | exited (program : String) (status : Option Nat) (errors : String)
  | outputLine (number width : Nat) (line : String)
  | other (text : String)
  deriving DecidableEq

namespace SimulationFailure

def message : SimulationFailure → String
  | zeroWidth => "zero-width stream interface"
  | wordWidth actual expected =>
      toString actual ++ "-bit word driven onto " ++ toString expected ++ "-bit input"
  | partialWord bits width =>
      "input stream of " ++ toString bits ++ " bits ends inside a " ++ toString width ++
        "-bit output word"
  | exited program status errors =>
      program ++ " exited with " ++ (status.map toString).getD "signal" ++ ": " ++ errors
  | outputLine number width line =>
      "output line " ++ toString number ++ " is not a " ++ toString width ++ "-bit hex word: " ++
        Text.quoted line
  | other text => text

end SimulationFailure

inductive SimulationError
  | artifactMissing (path : String)
  | failed (cause : SimulationFailure)
  | io (text : String)
  | fault (cause : Fault)
  deriving DecidableEq

namespace SimulationError

def message : SimulationError → String
  | artifactMissing path => "hardware artifact not found: " ++ path
  | failed cause => "simulation failed: " ++ cause.message
  | io text => "simulator I/O error: " ++ text
  | fault cause => cause.message

end SimulationError

end StreamWidth
