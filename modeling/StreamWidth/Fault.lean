/-!
Computations that have no result: a step whose operands lie outside its range is given up at
once. A fault is neither a rejected input nor a failed simulation, and no layer recovers from it.
-/

namespace StreamWidth

inductive Fault
  /-- A width at which the bounds of a type or the code of an element have no 64-bit form. -/
  | widthOutOfRange
  | bitsOutsideWord
  | integerOverflow
  | capacity
  | emptyGroup
  | countMismatch
  deriving DecidableEq

namespace Fault

def message : Fault → String
  | widthOutOfRange => "element width out of range"
  | bitsOutsideWord => "bits outside the word"
  | integerOverflow => "integer overflow"
  | capacity => "capacity exceeded"
  | emptyGroup => "groups of no elements"
  | countMismatch => "counts differ"

end Fault

end StreamWidth
