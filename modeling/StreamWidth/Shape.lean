import StreamWidth.Power

/-!
Shapes of tensors, outermost dimension first. Element counts stop at the largest 64-bit number.
-/

namespace StreamWidth

structure Shape where
  dims : List Nat
  deriving DecidableEq

namespace Shape

/-- The largest count of elements that can be told apart from a larger one. -/
def countLimit : Nat :=
  2 ^ 64 - 1

def rank (shape : Shape) : Nat :=
  shape.dims.length

def cappedProduct (dims : List Nat) : Nat :=
  dims.foldl (fun product dim => min (product * dim) countLimit) 1

/-- The product of the dimensions, if the limit is never passed on the way. -/
def exactProduct? (dims : List Nat) : Option Nat :=
  dims.foldlM (fun product dim =>
    if product * dim ≤ countLimit then some (product * dim) else none) 1

/-- A shape without dimensions holds nothing: there is no stream of a lone scalar. -/
def elementCount (shape : Shape) : Nat :=
  if shape.dims = [] then 0 else cappedProduct shape.dims

def exactCount? (shape : Shape) : Option Nat :=
  if shape.dims = [] then some 0 else exactProduct? shape.dims

def lastDim? (shape : Shape) : Option Nat :=
  shape.dims.getLast?

def outerDims (shape : Shape) : List Nat :=
  shape.dims.dropLast

def outerCount (shape : Shape) : Nat :=
  cappedProduct shape.outerDims

def listText (dims : List Nat) : String :=
  String.intercalate ", " (dims.map toString)

def text (shape : Shape) : String :=
  "[" ++ listText shape.dims ++ "]"

end Shape

end StreamWidth
