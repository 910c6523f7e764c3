import StreamWidth.Converter
import StreamWidth.Tensor

/-!
Test inputs made by a rule. Integers of 64 bits are wrapped into the range of an element type; a
step of the arithmetic that leaves 64 bits is a fault.
-/

namespace StreamWidth

structure Pattern where
  kind : String
  start : Int
  step : Int
  value : Int
  deriving DecidableEq

namespace Pattern

def defaultStep : Int :=
  1

def checked (n : Int) : Except Failure Int :=
  if -2 ^ 63 ≤ n ∧ n < 2 ^ 63 then .ok n else .error (.fault .integerOverflow)

def clamp (n : Int) : Int :=
  max (-2 ^ 63) (min (2 ^ 63 - 1) n)

/-- The number of the given type that an integer stands for. -/
def wrapInto (type : ElementType) (value : Int) : Except Failure Binary32 :=
  match type with
  | .float32 => .ok (.ofInt value)
  | .bipolar => .ok (.ofInt (if value % 2 = 0 then -1 else 1))
  | _ => do
      let least := clamp (← type.minimum)
      let span ← checked (clamp (← type.maximum) - least)
      let span ← checked (span + 1)
      let offset ← checked (value - least)
      return .ofInt (least + offset % span)

def sequenceValue (pattern : Pattern) (index : Nat) : Except Failure Int := do
  let advance ← checked (index * pattern.step)
  checked (pattern.start + advance)

def checkCapacity (count : Nat) : Except Failure Unit :=
  if count < Tensor.capacity then .ok () else .error (.fault .capacity)

def sequential (pattern : Pattern) (type : ElementType) (count : Nat) :
    Except Failure (List Binary32) := do
  checkCapacity count
  (List.range count).mapM fun index => do wrapInto type (← pattern.sequenceValue index)

def constant (pattern : Pattern) (type : ElementType) (count : Nat) :
    Except Failure (List Binary32) := do
  if !(← type.accepts (.ofInt pattern.value)) then
    throw (.validation (.constant pattern.value type))
  checkCapacity count
  return List.replicate count (.ofInt pattern.value)

/-- The two values that take turns: the bounds of the type, or one to each side of zero. -/
def alternatingPair (type : ElementType) : Except Failure (Binary32 × Binary32) :=
  match type with
  | .float32 => .ok (.ofInt (-1), .ofInt 1)
  | _ => do return (.ofInt (← type.minimum), .ofInt (← type.maximum))

def alternating (type : ElementType) (count : Nat) : Except Failure (List Binary32) := do
  let (even, odd) ← alternatingPair type
  checkCapacity count
  return (List.range count).map fun index => if index % 2 = 0 then even else odd

def elements (pattern : Pattern) (type : ElementType) (count : Nat) :
    Except Failure (List Binary32) :=
  if pattern.kind = "sequential" then pattern.sequential type count
  else if pattern.kind = "constant" then pattern.constant type count
  else if pattern.kind = "alternating" then alternating type count
  else .error (.configuration (.unknownPattern pattern.kind))

def generate (pattern : Pattern) (converter : Converter) : Except Failure Tensor := do
  let data ← pattern.elements converter.type converter.shape.elementCount
  Tensor.new converter.shape data converter.type

end Pattern

end StreamWidth
