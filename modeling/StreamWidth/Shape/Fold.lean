import StreamWidth.Failure

/-!
Folding: the innermost dimension is cut into stream words, so all dimensions but the last count the
words that carry a tensor.
-/

namespace StreamWidth.Shape

def splitLast (shape : Shape) (channels perWord : Nat) : Shape :=
  ⟨shape.outerDims ++ [channels / perWord, perWord]⟩

/-- The shape of a tensor as words of `width` bits with elements of `bits` bits. -/
def fold (shape : Shape) (width bits : Nat) : Except Failure Shape :=
  if bits = 0 ∨ width = 0 then .error (.configuration (.emptyFold width bits))
  else if width % bits ≠ 0 then .error (.configuration (.widthNotDivisible width bits))
  else
    match shape.lastDim? with
    | none => .error (.configuration .scalarShape)
    | some channels =>
        if channels % (width / bits) ≠ 0 then
          .error (.configuration (.channelsNotDivisible channels (width / bits) width bits))
        else
          let folded := shape.splitLast channels (width / bits)
          if folded.elementCount = shape.elementCount then .ok folded
          else .error (.fault .countMismatch)

end StreamWidth.Shape
