import StreamWidth.Attributes.Value
import StreamWidth.Binary32.Text
import StreamWidth.ElementType
import StreamWidth.Fault
import StreamWidth.Files.Error
import StreamWidth.Shape
import StreamWidth.Simulation.Error
import StreamWidth.Text.Quoted

/-!
Why a request is refused. Each kind of failure holds its cause, and one function per kind gives the
wording.
-/

namespace StreamWidth

open Text (quoted)

inductive Side
  | input
  | output
  deriving DecidableEq

def Side.widthKey : Side → String
  | input => "inWidth"
  | output => "outWidth"

inductive ConfigurationError
  | unknownType (tag : String)
  | unsupportedType (type : ElementType)
  | emptyFold (width bits : Nat)
  | widthNotDivisible (width bits : Nat)
  | scalarShape
  | channelsNotDivisible (channels perWord width bits : Nat)
  | emptyStream (inWidth outWidth : Nat)
  | inputNotMultiple (inWidth outWidth : Nat)
  | outputNotMultiple (inWidth outWidth : Nat)
  | tooManyElements (shape : Shape)
  | unpaddableWidth (side : Side) (width : Nat)
  | unknownAttribute (key : String)
  | missingAttribute (key : String)
  | attributeKind (key : String) (expected actual : AttributeKind)
  | attributeRange (key : String) (value : Int)
  | emptyShape
  | unknownPattern (name : String)
  | unreadable (path : String) (cause : FileError)
  | malformedDescription (detail : String)
  | within (place : String) (cause : ConfigurationError)
  deriving DecidableEq

namespace ConfigurationError

def detail : ConfigurationError → String
  | unknownType tag => "unknown datatype tag " ++ quoted tag
  | unsupportedType type =>
      "datatype " ++ type.tag ++ " out of supported range (" ++ toString type.leastBits ++ "..=" ++
        toString ElementType.greatestIntegerBits ++ " bits)"
  | emptyFold width bits =>
      "stream width (" ++ toString width ++ ") and element bits (" ++ toString bits ++
        ") must be positive"
  | widthNotDivisible width bits =>
      "stream width " ++ toString width ++ " is not divisible by element bitwidth " ++ toString bits
  | scalarShape => "cannot fold a rank-0 shape"
  | channelsNotDivisible channels perWord width bits =>
      "channel count " ++ toString channels ++ " not divisible by elements-per-word " ++
        toString perWord ++ " (" ++ toString width ++ " bits / " ++ toString bits ++ " bits)"
  | emptyStream inWidth outWidth =>
      "stream widths must be positive (in " ++ toString inWidth ++ ", out " ++ toString outWidth ++
        ")"
  | inputNotMultiple inWidth outWidth =>
      "in width " ++ toString inWidth ++ " is larger than out width " ++ toString outWidth ++
        " but not a multiple of it; adjust PE/SIMD so that in % out == 0"
  | outputNotMultiple inWidth outWidth =>
      "out width " ++ toString outWidth ++ " is larger than in width " ++ toString inWidth ++
        " but not a multiple of it; adjust PE/SIMD so that out % in == 0"
  | tooManyElements shape => "shape " ++ shape.text ++ " has more elements than fit in usize"
  | unpaddableWidth side width =>
      side.widthKey ++ " " ++ toString width ++ " cannot be padded to a whole number of bytes"
  | unknownAttribute key => "unknown attribute " ++ quoted key
  | missingAttribute key => "missing required attribute " ++ quoted key
  | attributeKind key expected actual =>
      "attribute " ++ quoted key ++ " must be " ++ expected.name ++ ", got " ++ actual.name
  | attributeRange key value =>
      "attribute " ++ quoted key ++ " must be a positive integer, got " ++ toString value
  | emptyShape => "attribute \"shape\" must not be empty"
  | unknownPattern name => "unknown input pattern " ++ quoted name
  | unreadable path cause => "failed to read node description " ++ path ++ ": " ++ cause.message
  | malformedDescription detail => "invalid node description: " ++ detail
  | within place cause => place ++ ": configuration error: " ++ cause.detail

end ConfigurationError

inductive ValidationError
  | unfilledShape (shape : Shape) (count : Nat)
  | reshape (shape : Shape) (count : Nat) (target : Shape)
  | unrepresentable (value : Binary32) (index : Nat) (type : ElementType)
  | inputNames (node : String) (count : Nat)
  | outputNames (node : String) (count : Nat)
  | graphShape (node : String) (actual expected : Shape)
  | executionMode (tag : String)
  | missingTensor (name node : String)
  | inputShape (actual expected : Shape)
  | inputType (actual expected : ElementType)
  | inputValue (value : Binary32) (index : Nat) (type : ElementType)
  | constant (value : Int) (type : ElementType)
  deriving DecidableEq

namespace ValidationError

def detail : ValidationError → String
  | unfilledShape shape count =>
      "shape " ++ shape.text ++ " requires " ++ toString shape.elementCount ++ " elements, got " ++
        toString count
  | reshape shape count target =>
      "cannot reshape " ++ shape.text ++ " (" ++ toString count ++ " elements) into " ++ target.text
  | unrepresentable value index type =>
      "value " ++ value.text ++ " at index " ++ toString index ++ " is not representable as " ++
        type.tag
  | inputNames node count => node ++ " needs exactly 1 data input, has " ++ toString count
  | outputNames node count => node ++ " needs exactly 1 output, has " ++ toString count
  | graphShape node actual expected =>
      "unexpected input shape for " ++ node ++ ": graph has " ++ actual.text ++ ", node expects " ++
        expected.text
  | executionMode tag =>
      "invalid exec_mode " ++ quoted tag ++
        "; expected one of \"npysim\", \"rtlsim\", \"functional\", \"cosim\""
  | missingTensor name node => "execution context has no tensor " ++ quoted name ++ " for " ++ node
  | inputShape actual expected =>
      "input shape " ++ actual.text ++ " does not match expected shape " ++ expected.text
  | inputType actual expected =>
      "input datatype " ++ actual.tag ++ " does not match expected datatype " ++ expected.tag
  | inputValue value index type =>
      "input value " ++ value.text ++ " at index " ++ toString index ++ " is not a valid " ++
        type.tag
  | constant value type => "constant " ++ toString value ++ " is not a valid " ++ type.tag

end ValidationError

inductive MismatchError
  | shapes (expected actual : Shape)
  | types (expected actual : ElementType)
  | wordCount (count width : Nat) (shape : Shape) (expected : Nat)
  | wordWidth (actual expected : Nat)
  deriving DecidableEq

namespace MismatchError

def detail : MismatchError → String
  | shapes expected actual => "expected " ++ expected.text ++ ", got " ++ actual.text
  | types expected actual => "expected datatype " ++ expected.tag ++ ", got " ++ actual.tag
  | wordCount count width shape expected =>
      toString count ++ " words of " ++ toString width ++ " bits do not fill shape " ++ shape.text ++
        " (expected " ++ toString expected ++ ")"
  | wordWidth actual expected =>
      "stream word of " ++ toString actual ++ " bits on a " ++ toString expected ++ "-bit stream"

end MismatchError

inductive Failure
  | configuration (cause : ConfigurationError)
  | validation (cause : ValidationError)
  | missingArtifact (path : String)
  | shapeMismatch (cause : MismatchError)
  | backend (cause : SimulationError)
  | fault (cause : Fault)
  deriving DecidableEq

namespace Failure

def message : Failure → String
  | configuration cause => "configuration error: " ++ cause.detail
  | validation cause => "validation error: " ++ cause.detail
  | missingArtifact path =>
      "missing hardware artifact: " ++ path ++ " (was the IP generation step run?)"
  | shapeMismatch cause => "shape mismatch: " ++ cause.detail
  | backend cause => "cosimulation backend failed: " ++ cause.message
  | fault cause => cause.message

def ofSimulation : SimulationError → Failure
  | .artifactMissing path => missingArtifact path
  | .fault cause => fault cause
  | cause => backend cause

def inPlace (place : String) : Failure → Failure
  | configuration cause => configuration (.within place cause)
  | failure => failure

end Failure

end StreamWidth
