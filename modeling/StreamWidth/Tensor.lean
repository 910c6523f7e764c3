import StreamWidth.ElementType.Range

/-!
Row-major tensors. Their data always fill their shape; whether the values belong to the type is a
question to ask.
-/

namespace StreamWidth

structure Tensor where
  shape : Shape
  data : List Binary32
  type : ElementType
  filled : data.length = shape.elementCount
  deriving DecidableEq

namespace Tensor

/-- Elements of four bytes fill memory at this count. -/
def capacity : Nat :=
  2 ^ 61

def new (shape : Shape) (data : List Binary32) (type : ElementType) : Except Failure Tensor :=
  if filled : data.length = shape.elementCount then .ok ⟨shape, data, type, filled⟩
  else .error (.validation (.unfilledShape shape data.length))

def zeros (shape : Shape) (type : ElementType) : Except Failure Tensor :=
  if shape.elementCount < capacity then
    .ok ⟨shape, List.replicate shape.elementCount .zero, type, List.length_replicate⟩
  else .error (.fault .capacity)

def reshape (tensor : Tensor) (shape : Shape) : Except Failure Tensor :=
  if filled : tensor.data.length = shape.elementCount then .ok ⟨shape, tensor.data, tensor.type, filled⟩
  else .error (.validation (.reshape tensor.shape tensor.data.length shape))

def map (tensor : Tensor) (type : ElementType) (change : Binary32 → Binary32) : Tensor :=
  ⟨tensor.shape, tensor.data.map change, type, by simp [tensor.filled]⟩

def firstRefused (type : ElementType) : Nat → List Binary32 → Except Failure (Option (Nat × Binary32))
  | _, [] => .ok none
  | index, x :: rest => do
      if ← type.accepts x then firstRefused type (index + 1) rest
      else return some (index, x)

def firstDisallowed (tensor : Tensor) : Except Failure (Option (Nat × Binary32)) :=
  firstRefused tensor.type 0 tensor.data

def sameNumbers (left right : Tensor) : Bool :=
  left.shape == right.shape && left.type == right.type &&
    left.data.length == right.data.length &&
    (left.data.zip right.data).all fun pair => pair.1.sameNumber pair.2

end Tensor

end StreamWidth
