import StreamWidth.Failure

/-!
Relations between stream widths.
-/

namespace StreamWidth.Width

def limit : Nat :=
  2 ^ 32

/-- One width must divide the other; equal widths pass words through. -/
def checkRelation (inWidth outWidth : Nat) : Except Failure Unit :=
  if inWidth = 0 ∨ outWidth = 0 then .error (.configuration (.emptyStream inWidth outWidth))
  else if outWidth < inWidth ∧ inWidth % outWidth ≠ 0 then
    .error (.configuration (.inputNotMultiple inWidth outWidth))
  else if inWidth < outWidth ∧ outWidth % inWidth ≠ 0 then
    .error (.configuration (.outputNotMultiple inWidth outWidth))
  else .ok ()

/-- The least multiple that is no smaller than the value, if it is a width. -/
def roundUp? (value multiple : Nat) : Option Nat :=
  if multiple = 0 then some value
  else
    let rounded := (value + multiple - 1) / multiple * multiple
    if rounded < limit then some rounded else none

end StreamWidth.Width
