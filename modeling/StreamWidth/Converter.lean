import StreamWidth.Attributes
import StreamWidth.Shape.Fold
import StreamWidth.Width

/-!
Width converters: the same tensor enters as words of one width and leaves as words of another. A
converter exists only for attributes that make both streams legal.
-/

namespace StreamWidth

structure Signature where
  name : String
  domain : String
  inputs : List String
  outputs : List String
  deriving DecidableEq

namespace Signature

def converterDomain : String :=
  "finn"

def single (name input output : String) : Signature :=
  ⟨name, converterDomain, [input], [output]⟩

end Signature

namespace Attributes

def checkCount (attributes : Attributes) : Except Failure Unit :=
  if attributes.shape.exactCount?.isSome then .ok ()
  else .error (.configuration (.tooManyElements attributes.shape))

def byteBits : Nat :=
  8

def checkPadding (attributes : Attributes) (side : Side) : Except Failure Unit :=
  if (Width.roundUp? (attributes.width side) byteBits).isSome then .ok ()
  else .error (.configuration (.unpaddableWidth side (attributes.width side)))

def foldedShape (attributes : Attributes) (side : Side) : Except Failure Shape := do
  Width.checkRelation attributes.inWidth attributes.outWidth
  attributes.shape.fold (attributes.width side) attributes.type.storageBits

def check (attributes : Attributes) : Except Failure Unit := do
  attributes.type.checkSupported
  attributes.checkCount
  attributes.checkPadding .input
  attributes.checkPadding .output
  let _ ← attributes.foldedShape .input
  let _ ← attributes.foldedShape .output

end Attributes

structure Converter where
  signature : Signature
  attributes : Attributes
  accepted : attributes.check = .ok ()

namespace Converter

def new (signature : Signature) (attributes : Attributes) : Except Failure Converter :=
  match checked : attributes.check with
  | .ok () => .ok ⟨signature, attributes, checked⟩
  | .error failure => .error failure

def ofTable (signature : Signature) (table : AttributeTable) : Except Failure Converter := do
  new signature (← Attributes.ofTable table)

def name (converter : Converter) : String :=
  converter.signature.name

def type (converter : Converter) : ElementType :=
  converter.attributes.type

def shape (converter : Converter) : Shape :=
  converter.attributes.shape

def inputName (converter : Converter) : Except Failure String :=
  match converter.signature.inputs with
  | [name] => .ok name
  | names => .error (.validation (.inputNames converter.name names.length))

def outputName (converter : Converter) : Except Failure String :=
  match converter.signature.outputs with
  | [name] => .ok name
  | names => .error (.validation (.outputNames converter.name names.length))

def width (converter : Converter) (side : Side) : Nat :=
  converter.attributes.width side

def paddedWidth (converter : Converter) (side : Side) : Nat :=
  (Width.roundUp? (converter.width side) Attributes.byteBits).getD (converter.width side)

def foldedShape (converter : Converter) (side : Side) : Except Failure Shape :=
  converter.attributes.foldedShape side

def wordCount (converter : Converter) (side : Side) : Except Failure Nat :=
  (converter.foldedShape side).map Shape.outerCount

def wordsCombined (converter : Converter) : Nat :=
  if converter.width .input < converter.width .output then
    converter.width .output / converter.width .input
  else 1

def checkInputShape (converter : Converter) (shape : Shape) : Except Failure Unit :=
  if shape = converter.shape then .ok ()
  else .error (.validation (.graphShape converter.name shape converter.shape))

def outputType (input : ElementType) : ElementType :=
  input

end Converter

end StreamWidth
