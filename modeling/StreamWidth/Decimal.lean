import StreamWidth.Power

/-!
Shortest decimals. Among the decimals that read back as a floating-point value, the shortest has
the coarsest power of ten, and of two equally short ones the nearer to the value is taken.
-/

namespace StreamWidth

structure Decimal where
  digits : Nat
  exponent : Int
  deriving DecidableEq

/-- The positive numbers that read back as `value`, all over the common denominator `unit`. The
ends belong when `closed` holds. -/
structure Neighbourhood where
  low : Nat
  value : Nat
  high : Nat
  unit : Nat
  closed : Bool

namespace Neighbourhood

/-- The neighbourhood of `significand * 2 ^ exponent`. It reaches half a step to each side, but
only a quarter step down where the steps below are half as long. -/
def around (significand : Nat) (exponent : Int) (narrowBelow : Bool) : Neighbourhood :=
  let factor := 2 ^ (exponent - 2).toNat
  { low := (4 * significand - if narrowBelow then 1 else 2) * factor
    value := 4 * significand * factor
    high := (4 * significand + 2) * factor
    unit := 2 ^ (2 - exponent).toNat
    closed := significand % 2 == 0 }

def nearestMultiple? (range : Neighbourhood) (power : Int) : Option Nat :=
  let scale := 10 ^ (-power).toNat
  let grid := range.unit * 10 ^ power.toNat
  let inside (count : Nat) : Bool :=
    if range.closed then range.low * scale ≤ count * grid && count * grid ≤ range.high * scale
    else range.low * scale < count * grid && count * grid < range.high * scale
  let below := range.value * scale / grid
  let rest := range.value * scale % grid
  match inside below, inside (below + 1) with
  | true, true => some (if 2 * rest < grid then below else below + 1)
  | true, false => some below
  | false, true => some (below + 1)
  | false, false => none

def shortestFrom (range : Neighbourhood) : Nat → Int → Decimal
  | 0, _ => ⟨range.value / range.unit, 0⟩
  | steps + 1, power =>
      match range.nearestMultiple? power with
      | some count => ⟨count, power⟩
      | none => range.shortestFrom steps (power - 1)

/-- The search starts at a power of ten above the whole neighbourhood and ends at the latest where
the powers are finer than its denominator. -/
def shortest (range : Neighbourhood) : Decimal :=
  let top := Nat.log2 (range.high / range.unit) / 3 + 1
  range.shortestFrom (top + Nat.log2 range.unit + 2) top

end Neighbourhood

structure NumberStyle where
  positional : Option (Int × Int)
  places : Nat

namespace Decimal

def zeros (count : Int) : List Char :=
  List.replicate count.toNat '0'

def leadingPower (d : Decimal) : Int :=
  d.exponent + (Nat.toDigits 10 d.digits).length - 1

def positionalText (places : Nat) (d : Decimal) : String :=
  let digits := Nat.toDigits 10 d.digits ++ zeros d.exponent
  let padded := zeros (-d.exponent + 1 - digits.length) ++ digits
  let split := padded.length - (-d.exponent).toNat
  let fraction := padded.drop split
  let fraction := fraction ++ zeros (places - fraction.length)
  String.ofList (padded.take split) ++
    if fraction.isEmpty then "" else "." ++ String.ofList fraction

def scientificText (d : Decimal) : String :=
  match Nat.toDigits 10 d.digits with
  | [] => ""
  | first :: rest =>
      String.ofList (first :: if rest.isEmpty then [] else '.' :: rest) ++ "e" ++
        toString d.leadingPower

def text (style : NumberStyle) (d : Decimal) : String :=
  match style.positional with
  | none => d.positionalText style.places
  | some (least, greatest) =>
      if least ≤ d.leadingPower ∧ d.leadingPower ≤ greatest then d.positionalText style.places
      else d.scientificText

end Decimal

end StreamWidth
