import StreamWidth.Converter

/-!
Fragments of the generated hardware kernel. A template holds markers, and a converter supplies the
lines that replace each of them; every number in these lines is a parameter of the kernel.
-/

namespace StreamWidth

structure KernelParameters where
  name : String
  inWidth : Nat
  outWidth : Nat
  wordsCombined : Nat
  element : ElementType
  outputDims : List Nat
  deriving DecidableEq

def Converter.kernelParameters (converter : Converter) : Except Failure KernelParameters := do
  let folded ← converter.foldedShape .output
  return {
    name := converter.name
    inWidth := converter.width .input
    outWidth := converter.width .output
    wordsCombined := converter.wordsCombined
    element := converter.type.storage
    outputDims := folded.dims }

namespace Hls

def kernel : String :=
  "StreamingDataWidthConverter_Batch"

def repetitions : Nat :=
  1

def wordType (width : Nat) : String :=
  "ap_uint<" ++ toString width ++ ">"

def braced (dims : List Nat) : String :=
  "\x7b" ++ Shape.listText dims ++ "\x7d"

def defines (parameters : KernelParameters) : List String :=
  ["#define InWidth " ++ toString parameters.inWidth ++ " ",
    "#define OutWidth " ++ toString parameters.outWidth ++ " ",
    "#define NumInWords " ++ toString parameters.wordsCombined ++ " ",
    "#define numReps " ++ toString repetitions]

def transferTypes (width : Nat) (element : ElementType) : String :=
  "<" ++ wordType width ++ ", " ++ element.hardwareType ++ ", " ++ toString element.bitwidth ++
    ", float>"

def readLine (parameters : KernelParameters) (directory : String) : String :=
  "npy2apintstream" ++ transferTypes parameters.inWidth parameters.element ++ "(\"" ++ directory ++
    "/input_0.npy\", in0);"

def writeLine (parameters : KernelParameters) (directory : String) : String :=
  "apintstream2npy" ++ transferTypes parameters.outWidth parameters.element ++ "(out, " ++
    braced parameters.outputDims ++ ", \"" ++ directory ++ "/output.npy\");"

def streamLine (width : Nat) (name : String) : String :=
  "hls::stream<" ++ wordType width ++ "> " ++ name ++ " (\"" ++ name ++ "\");"

def signatureLine (parameters : KernelParameters) : String :=
  "void " ++ parameters.name ++ "(hls::stream<" ++ wordType parameters.inWidth ++
    " > &in0, hls::stream<" ++ wordType parameters.outWidth ++ " > &out)"

def pragma (text : String) : String :=
  "#pragma HLS INTERFACE " ++ text

/-- The lines for every marker; `directory` is where the tensors of a functional run lie. -/
def fragmentList (parameters : KernelParameters) (directory : String) :
    List (String × List String) :=
  [("$GLOBALS$", ["#include \"streamtools.h\""]),
    ("$DEFINES$", defines parameters),
    ("$READNPYDATA$", [readLine parameters directory]),
    ("$STREAMDECLARATIONS$",
      [streamLine parameters.inWidth "in0", streamLine parameters.outWidth "out"]),
    ("$DOCOMPUTE$", [kernel ++ "<InWidth, OutWidth, NumInWords>(in0, out, numReps);"]),
    ("$DATAOUTSTREAM$", [writeLine parameters directory]),
    ("$SAVEASCNPY$", []),
    ("$BLACKBOXFUNCTION$", [signatureLine parameters]),
    ("$PRAGMAS$",
      [pragma "axis port=in0", pragma "axis port=out", pragma "ap_ctrl_none port=return"])]

def fragments (converter : Converter) (directory : String) :
    Except Failure (Dictionary (List String)) := do
  return Dictionary.ofList (fragmentList (← converter.kernelParameters) directory)

end Hls

end StreamWidth
