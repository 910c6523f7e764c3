/-!
Values of loosely typed attributes.
-/

namespace StreamWidth

inductive AttributeKind
  | int
  | ints
  | string
  deriving DecidableEq

def AttributeKind.name : AttributeKind → String
  | int => "int"
  | ints => "ints"
  | string => "string"

inductive AttributeValue
  | int (value : Int)
  | ints (values : List Int)
  | string (text : String)
  deriving DecidableEq

def AttributeValue.kind : AttributeValue → AttributeKind
  | int _ => .int
  | ints _ => .ints
  | string _ => .string

end StreamWidth
