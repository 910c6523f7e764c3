import StreamWidth.Rounding

/-!
Single-precision floating-point numbers as their bit patterns. A finite number is an integer
multiple of `2 ^ -149`; its count of these units makes comparison and arithmetic exact.
-/

namespace StreamWidth

structure Binary32 where
  bits : BitVec 32
  deriving DecidableEq

namespace Binary32

def magnitude (x : Binary32) : Nat :=
  x.bits.toNat % 2 ^ 31

def negative (x : Binary32) : Bool :=
  2 ^ 31 ≤ x.bits.toNat

def infinityMagnitude : Nat :=
  0x7f800000

def isFinite (x : Binary32) : Bool :=
  x.magnitude < infinityMagnitude

def isNaN (x : Binary32) : Bool :=
  infinityMagnitude < x.magnitude

def ofMagnitude (negative : Bool) (magnitude : Nat) : Binary32 :=
  ⟨BitVec.ofNat 32 ((if negative then 2 ^ 31 else 0) + magnitude)⟩

def ofPattern (pattern : Nat) : Binary32 :=
  ⟨BitVec.ofNat 32 pattern⟩

def nan : Binary32 :=
  ofPattern 0x7fc00000

/-- Units of `2 ^ -149` in one. -/
def unitsPerOne : Nat :=
  2 ^ 149

def scaled (x : Binary32) : Nat × Nat :=
  let exponent := x.magnitude / 2 ^ 23
  let fraction := x.magnitude % 2 ^ 23
  if exponent = 0 then (fraction, 0) else (2 ^ 23 + fraction, exponent - 1)

def units (x : Binary32) : Nat :=
  x.scaled.1 * 2 ^ x.scaled.2

def signedUnits (x : Binary32) : Int :=
  if x.negative then -(x.units : Int) else x.units

/-- The number nearest to `num / den` units, a half going to the even pattern; beyond the
largest finite number lies infinity. -/
def ofUnits (negative : Bool) (num den : Nat) : Binary32 :=
  let exponent := excessBits 24 (num / den)
  let significand := roundHalfEven num (den * 2 ^ exponent)
  ofMagnitude negative (min (exponent * 2 ^ 23 + significand) infinityMagnitude)

def ofInt (n : Int) : Binary32 :=
  ofUnits (n < 0) (n.natAbs * unitsPerOne) 1

def zero : Binary32 :=
  ofPattern 0

def one : Binary32 :=
  ofInt 1

def toInt? (x : Binary32) : Option Int :=
  if x.isFinite && x.units % unitsPerOne == 0 then
    some (if x.negative then -((x.units / unitsPerOne : Nat) : Int) else (x.units / unitsPerOne : Nat))
  else none

/-- The integer part, kept inside `[low, high]`; a pattern that is no number gives zero. -/
def toIntWithin (low high : Int) (x : Binary32) : Int :=
  if x.isNaN then 0
  else if x.isFinite then
    let whole : Int := (x.units / unitsPerOne : Nat)
    max low (min high (if x.negative then -whole else whole))
  else if x.negative then low else high

/-- Equality of the numbers denoted: zeros are equal whatever their sign, and a pattern that is
no number equals nothing. -/
def sameNumber (x y : Binary32) : Bool :=
  !x.isNaN && !y.isNaN && (x.bits == y.bits || (x.magnitude == 0 && y.magnitude == 0))

def add (x y : Binary32) : Binary32 :=
  if x.isNaN || y.isNaN then nan
  else if !x.isFinite then
    if !y.isFinite && x.negative != y.negative then nan else x
  else if !y.isFinite then y
  else
    let sum := x.signedUnits + y.signedUnits
    if sum = 0 then ofMagnitude (x.negative && y.negative) 0
    else ofUnits (sum < 0) sum.natAbs 1

def double (x : Binary32) : Binary32 :=
  if x.isFinite then ofUnits x.negative (2 * x.units) 1 else x

def halve (x : Binary32) : Binary32 :=
  if x.isFinite then ofUnits x.negative x.units 2 else x

end Binary32

end StreamWidth
