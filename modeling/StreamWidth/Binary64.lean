import StreamWidth.Decimal
import StreamWidth.Rounding

/-!
Integers as double-precision numbers. Bounds of element types are kept in this precision, so a
bound with more than 53 significant bits is the nearest integer that has no more.
-/

namespace StreamWidth.Binary64

def precision : Nat :=
  53

/-- The double-precision number nearest to an integer, which is an integer again. -/
def nearest (n : Int) : Int :=
  if n < 0 then -(roundSignificant precision n.natAbs : Int)
  else (roundSignificant precision n.natAbs : Int)

def scaled (n : Nat) : Nat × Int :=
  let length := Nat.log2 n + 1
  (n * 2 ^ (precision - length) / 2 ^ (length - precision), (length : Int) - precision)

def shortest (n : Nat) : Decimal :=
  if n = 0 then ⟨0, 0⟩
  else
    let (significand, exponent) := scaled n
    (Neighbourhood.around significand exponent (significand == 2 ^ (precision - 1))).shortest

def integerText (n : Int) : String :=
  (if n < 0 then "-" else "") ++ (shortest n.natAbs).text ⟨none, 0⟩

theorem nearest_of_lt (n : Int) (small : n.natAbs < 2 ^ precision) : nearest n = n := by
  have exact : roundSignificant precision n.natAbs = n.natAbs :=
    roundSignificant_of_lt (by decide) small
  simp only [nearest, exact]
  omega

end StreamWidth.Binary64
