import StreamWidth.Binary64
import StreamWidth.Failure

/-!
Bounds of element types, the values between them, and the storage form of a value.
-/

namespace StreamWidth.ElementType

def float32Greatest : Int :=
  (2 ^ 24 - 1) * 2 ^ 104

/-- The least value, of which double precision keeps every bit. -/
def minimum : ElementType → Except Failure Int
  | binary | unsigned _ => .ok 0
  | bipolar | ternary => .ok (-1)
  | signed bits =>
      if 1 ≤ bits ∧ bits ≤ 64 then .ok (-(2 ^ (bits - 1)))
      else .error (.fault .widthOutOfRange)
  | float32 => .ok (-float32Greatest)

def maximum : ElementType → Except Failure Int
  | binary | bipolar | ternary => .ok 1
  | unsigned bits =>
      if bits < 64 then .ok (Binary64.nearest (2 ^ bits - 1))
      else .error (.fault .widthOutOfRange)
  | signed bits =>
      if 1 ≤ bits ∧ bits ≤ 64 then .ok (Binary64.nearest (2 ^ (bits - 1) - 1))
      else .error (.fault .widthOutOfRange)
  | float32 => .ok float32Greatest

def withinBounds (type : ElementType) (value : Int) : Except Failure Bool := do
  let least ← type.minimum
  if value < least then
    return false
  let greatest ← type.maximum
  return value ≤ greatest

/-- Whether a number is a value of the type. Bounds are asked for only where they decide. -/
def accepts (type : ElementType) (x : Binary32) : Except Failure Bool :=
  match type with
  | float32 => .ok x.isFinite
  | bipolar => .ok (x.toInt? == some 1 || x.toInt? == some (-1))
  | _ =>
      match x.toInt? with
      | none => .ok false
      | some value => type.withinBounds value

def encode (type : ElementType) (x : Binary32) : Binary32 :=
  match type with
  | bipolar => (x.add .one).halve
  | _ => x

def decode (type : ElementType) (x : Binary32) : Binary32 :=
  match type with
  | bipolar => x.double.add (.ofInt (-1))
  | _ => x

end StreamWidth.ElementType
