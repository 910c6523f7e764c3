import StreamWidth.Grouping
import StreamWidth.Shape.Fold
import StreamWidth.Tensor
import StreamWidth.Word

/-!
Tensors as stream words. Every element has a code of the element's bit width. A word takes as many
elements as its width has room for, the first of them in its least significant bits.
-/

namespace StreamWidth.ElementType

/-- The code of a stored value: two's complement for integers, the pattern for floating point. -/
def code (storage : ElementType) (x : Binary32) : Nat :=
  let range : Nat := 2 ^ storage.bitwidth
  match storage with
  | float32 => x.bits.toNat
  | _ =>
      if storage.isSigned then (x.toIntWithin (-2 ^ 63) (2 ^ 63 - 1) % range).toNat
      else (x.toIntWithin 0 (2 ^ 64 - 1) % range).toNat

def ofCode (storage : ElementType) (code : Nat) : Binary32 :=
  match storage with
  | float32 => .ofPattern code
  | _ =>
      if storage.isSigned && 2 ^ storage.bitwidth ≤ 2 * code then
        .ofInt ((code : Int) - 2 ^ storage.bitwidth)
      else .ofInt code

end StreamWidth.ElementType

namespace StreamWidth

def ElementType.elementCode (type : ElementType) (x : Binary32) : Nat :=
  type.storage.code (type.encode x)

def ElementType.ofElementCode (type : ElementType) (code : Nat) : Binary32 :=
  type.decode (type.storage.ofCode code)

/-- Puts elements into a word, the first of them into the field with the given index. -/
def Word.putElements (type : ElementType) (word : Word) :
    Nat → List Binary32 → Except Failure Word
  | _, [] => .ok word
  | index, x :: rest => do
      let word ← word.setField (index * type.storageBits) type.storageBits (type.elementCode x)
      word.putElements type (index + 1) rest

def Word.ofElements (type : ElementType) (width : Nat) (elements : List Binary32) :
    Except Failure Word :=
  (Word.zero width).putElements type 0 elements

def Word.codes (word : Word) (bits count : Nat) : Except Failure (List Nat) :=
  (List.range count).mapM fun index => word.field (index * bits) bits

def Shape.elementsPerWord (folded : Shape) : Nat :=
  folded.lastDim?.getD 1

def Tensor.pack (tensor : Tensor) (width : Nat) : Except Failure (List Word) := do
  if let some (index, value) ← tensor.firstDisallowed then
    throw (.validation (.unrepresentable value index tensor.type))
  let folded ← tensor.shape.fold width tensor.type.storageBits
  let groups ← Grouping.groups folded.elementsPerWord tensor.data
  let words ← groups.mapM (Word.ofElements tensor.type width)
  if words.length ≠ folded.outerCount then
    throw (.fault .countMismatch)
  return words

def checkWords (words : List Word) (width : Nat) (shape folded : Shape) : Except Failure Unit :=
  if words.length ≠ folded.outerCount then
    .error (.shapeMismatch (.wordCount words.length width shape folded.outerCount))
  else
    match words.find? (·.width != width) with
    | some word => .error (.shapeMismatch (.wordWidth word.width width))
    | none => .ok ()

def Tensor.unpack (words : List Word) (type : ElementType) (width : Nat) (shape : Shape) :
    Except Failure Tensor := do
  let folded ← shape.fold width type.storageBits
  checkWords words width shape folded
  let codes ← words.mapM fun word => word.codes type.storageBits folded.elementsPerWord
  Tensor.new shape (codes.flatten.map type.ofElementCode) type

end StreamWidth
