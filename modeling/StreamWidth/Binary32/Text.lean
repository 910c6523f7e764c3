import StreamWidth.Binary32
import StreamWidth.Decimal

/-!
The two written forms of single-precision numbers.
-/

namespace StreamWidth.Binary32

def messageStyle : NumberStyle :=
  ⟨none, 0⟩

def listingStyle : NumberStyle :=
  ⟨some (-4, 15), 1⟩

def shortest (x : Binary32) : Decimal :=
  if x.magnitude = 0 then ⟨0, 0⟩
  else
    let (significand, exponent) := x.scaled
    (Neighbourhood.around significand (exponent - 149)
      (significand == 2 ^ 23 && exponent != 0)).shortest

def format (style : NumberStyle) (x : Binary32) : String :=
  if x.isNaN then "NaN"
  else
    (if x.negative then "-" else "") ++ if x.isFinite then x.shortest.text style else "inf"

def text (x : Binary32) : String :=
  x.format messageStyle

def listed (x : Binary32) : String :=
  x.format listingStyle

end StreamWidth.Binary32
