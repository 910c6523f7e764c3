import StreamWidth.Attributes.Value
import StreamWidth.Dictionary
import StreamWidth.ElementType.Tag

/-!
Attributes of a converter: the loosely typed table of a graph description, and the record that it
stands for. A table is read at once and in full; unknown names, missing ones and values of a wrong
kind are refused.
-/

namespace StreamWidth

abbrev AttributeTable :=
  Dictionary AttributeValue

structure Attributes where
  shape : Shape
  inWidth : Nat
  outWidth : Nat
  type : ElementType
  backend : Option String
  executionMode : Option String
  functionalDirectory : Option String
  hardwareDirectory : Option String
  deriving DecidableEq

namespace Attributes

def shapeKey : String :=
  "shape"

def typeKey : String :=
  "dataType"

def backendKey : String :=
  "backend"

def executionModeKey : String :=
  "exec_mode"

def functionalDirectoryKey : String :=
  "code_gen_dir_npysim"

def hardwareDirectoryKey : String :=
  "code_gen_dir_ipgen"

def keys : List String :=
  [shapeKey, Side.input.widthKey, Side.output.widthKey, typeKey, backendKey, executionModeKey,
    functionalDirectoryKey, hardwareDirectoryKey]

def required (table : AttributeTable) (key : String) : Except Failure AttributeValue :=
  match table.get? key with
  | some value => .ok value
  | none => .error (.configuration (.missingAttribute key))

def wrongKind (key : String) (expected : AttributeKind) (value : AttributeValue) : Failure :=
  .configuration (.attributeKind key expected value.kind)

def requiredInt (table : AttributeTable) (key : String) : Except Failure Int := do
  match ← required table key with
  | .int value => return value
  | other => throw (wrongKind key .int other)

def requiredInts (table : AttributeTable) (key : String) : Except Failure (List Int) := do
  match ← required table key with
  | .ints values => return values
  | other => throw (wrongKind key .ints other)

def requiredString (table : AttributeTable) (key : String) : Except Failure String := do
  match ← required table key with
  | .string text => return text
  | other => throw (wrongKind key .string other)

def optionalString (table : AttributeTable) (key : String) : Except Failure (Option String) :=
  match table.get? key with
  | none => .ok none
  | some (.string text) => .ok (some text)
  | some other => .error (wrongKind key .string other)

def sizeLimit : Int :=
  2 ^ 32

def positive (key : String) (value : Int) : Except Failure Nat :=
  if 0 < value ∧ value < sizeLimit then .ok value.toNat
  else .error (.configuration (.attributeRange key value))

def checkKeys (table : AttributeTable) : Except Failure Unit :=
  match table.keys.find? (!keys.contains ·) with
  | some key => .error (.configuration (.unknownAttribute key))
  | none => .ok ()

def readShape (table : AttributeTable) : Except Failure Shape := do
  let dims ← requiredInts table shapeKey
  if dims.isEmpty then
    throw (.configuration .emptyShape)
  return ⟨← dims.mapM (positive shapeKey)⟩

def readWidth (table : AttributeTable) (side : Side) : Except Failure Nat := do
  positive side.widthKey (← requiredInt table side.widthKey)

def ofTable (table : AttributeTable) : Except Failure Attributes := do
  checkKeys table
  return {
    shape := ← readShape table
    inWidth := ← readWidth table .input
    outWidth := ← readWidth table .output
    type := ← ElementType.ofTag (← requiredString table typeKey)
    backend := ← optionalString table backendKey
    executionMode := ← optionalString table executionModeKey
    functionalDirectory := ← optionalString table functionalDirectoryKey
    hardwareDirectory := ← optionalString table hardwareDirectoryKey }

/-- Table integers have 64 bits; a larger dimension keeps its low ones. -/
def tableDim (dim : Nat) : Int :=
  Int.bmod dim (2 ^ 64)

def requiredTable (attributes : Attributes) : AttributeTable :=
  Dictionary.ofList [
    (shapeKey, .ints (attributes.shape.dims.map tableDim)),
    (Side.input.widthKey, .int attributes.inWidth),
    (Side.output.widthKey, .int attributes.outWidth),
    (typeKey, .string attributes.type.tag)]

def toTable (attributes : Attributes) : AttributeTable :=
  attributes.requiredTable
    |>.insert? backendKey (attributes.backend.map .string)
    |>.insert? executionModeKey (attributes.executionMode.map .string)
    |>.insert? functionalDirectoryKey (attributes.functionalDirectory.map .string)
    |>.insert? hardwareDirectoryKey (attributes.hardwareDirectory.map .string)

def width (attributes : Attributes) : Side → Nat
  | .input => attributes.inWidth
  | .output => attributes.outWidth

end Attributes

end StreamWidth
