/-!
Element types of streamed tensors: what values an element takes and how many bits it fills.
-/

namespace StreamWidth

inductive ElementType
  | binary
  | bipolar
  | ternary
  | unsigned (bits : Nat)
  | signed (bits : Nat)
  | float32
  deriving DecidableEq

namespace ElementType

def bitwidth : ElementType → Nat
  | binary | bipolar => 1
  | ternary => 2
  | unsigned bits | signed bits => bits
  | float32 => 32

def isSigned : ElementType → Bool
  | binary | unsigned _ => false
  | bipolar | ternary | signed _ | float32 => true

/-- The type that travels on a stream: bipolar elements are sent as binary ones. -/
def storage : ElementType → ElementType
  | bipolar => binary
  | type => type

def storageBits (type : ElementType) : Nat :=
  type.storage.bitwidth

def greatestIntegerBits : Nat :=
  32

def leastBits : ElementType → Nat
  | signed _ => 2
  | _ => 1

def isSupported (type : ElementType) : Bool :=
  type.leastBits ≤ type.bitwidth && type.bitwidth ≤ greatestIntegerBits

def tag : ElementType → String
  | binary => "BINARY"
  | bipolar => "BIPOLAR"
  | ternary => "TERNARY"
  | unsigned bits => "UINT" ++ toString bits
  | signed bits => "INT" ++ toString bits
  | float32 => "FLOAT32"

def hardwareType : ElementType → String
  | binary | bipolar => "ap_uint<1>"
  | ternary => "ap_int<2>"
  | unsigned bits => "ap_uint<" ++ toString bits ++ ">"
  | signed bits => "ap_int<" ++ toString bits ++ ">"
  | float32 => "float"

end ElementType

end StreamWidth
