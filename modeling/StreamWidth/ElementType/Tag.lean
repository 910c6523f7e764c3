import StreamWidth.Failure
import StreamWidth.Text.Digits

/-!
Tags of element types, as attributes give them. An integer type is a name and a decimal number of
bits, which may carry a plus sign and leading zeros.
-/

namespace StreamWidth.ElementType

/-- Bit counts that no type could have are as unknown as any other text. -/
def bitCountLimit : Nat :=
  2 ^ 32

def unsignedDigits : List Char → List Char
  | '+' :: digits => digits
  | digits => digits

def bitCount? (text : List Char) : Option Nat :=
  (Text.number? 10 (unsignedDigits text)).filter (· < bitCountLimit)

def integerType? : List Char → Option ElementType
  | 'U' :: 'I' :: 'N' :: 'T' :: digits => (bitCount? digits).map unsigned
  | 'I' :: 'N' :: 'T' :: digits => (bitCount? digits).map signed
  | _ => none

def named? (tag : String) : Option ElementType :=
  if tag = "BINARY" then some binary
  else if tag = "BIPOLAR" then some bipolar
  else if tag = "TERNARY" then some ternary
  else if tag = "FLOAT32" then some float32
  else integerType? tag.toList

def checkSupported (type : ElementType) : Except Failure Unit :=
  if type.isSupported then .ok () else .error (.configuration (.unsupportedType type))

def ofTag (tag : String) : Except Failure ElementType :=
  match named? tag with
  | none => .error (.configuration (.unknownType tag))
  | some type => type.checkSupported.map fun _ => type

end StreamWidth.ElementType
