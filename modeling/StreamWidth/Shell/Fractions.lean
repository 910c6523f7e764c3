import StreamWidth.Rounding
import StreamWidth.Text.Digits

/-!
Fractions that are read from decimals in double precision and printed with as many places as asked.
-/

namespace StreamWidth.Shell

structure Fraction where
  negative : Bool
  numerator : Nat
  denominator : Nat

namespace Fraction

def precision : Nat :=
  53

/-- The double-precision number nearest to a fraction, exponents being without limits. -/
def nearest (fraction : Fraction) : Fraction :=
  if fraction.numerator = 0 then fraction
  else
    let shift := precision + 2 + Nat.log2 fraction.denominator - Nat.log2 fraction.numerator
    let scaled := fraction.numerator * 2 ^ shift
    let step := 2 ^ (Nat.log2 (scaled / fraction.denominator) + 1 - precision)
    { fraction with
      numerator := roundHalfEven scaled (fraction.denominator * step) * step
      denominator := 2 ^ shift }

def digitsOf (chars : List Char) : List Char × List Char :=
  (chars.takeWhile Char.isDigit, chars.dropWhile Char.isDigit)

def readPower (chars : List Char) : Int × List Char :=
  match chars with
  | e :: rest =>
      if e == 'e' || e == 'E' then
        let (negative, rest) :=
          match rest with
          | '-' :: more => (true, more)
          | '+' :: more => (false, more)
          | _ => (false, rest)
        let (digits, after) := digitsOf rest
        match Text.number? 10 digits with
        | some power => (if negative then -power else power, after)
        | none => (0, chars)
      else (0, chars)
  | [] => (0, chars)

def powerBound : Nat :=
  400

def read (chars : List Char) : Option (Fraction × List Char) :=
  let (negative, chars) :=
    match chars with
    | '-' :: rest => (true, rest)
    | '+' :: rest => (false, rest)
    | _ => (false, chars)
  let (whole, rest) := digitsOf chars
  let (places, rest) :=
    match rest with
    | '.' :: more => digitsOf more
    | _ => ([], rest)
  match Text.number? 10 (whole ++ places) with
  | none => none
  | some digits =>
      let (power, rest) := readPower rest
      let bound : Int := powerBound + (whole ++ places).length
      let exponent := max (-bound) (min bound (power - places.length))
      some (nearest ⟨negative, digits * 10 ^ exponent.toNat, 10 ^ (-exponent).toNat⟩, rest)

def withPoint (places : Nat) (digits : List Char) : List Char :=
  let padded := List.replicate (places + 1 - digits.length) '0' ++ digits
  let split := padded.length - places
  padded.take split ++ if places = 0 then [] else '.' :: padded.drop split

def positional (places : Nat) (fraction : Fraction) : List Char :=
  withPoint places
    (Nat.toDigits 10 (roundHalfEven (fraction.numerator * 10 ^ places) fraction.denominator))

def rounded (fraction : Fraction) (power : Int) : Nat :=
  roundHalfEven (fraction.numerator * 10 ^ (-power).toNat) (fraction.denominator * 10 ^ power.toNat)

def leadingPower (places : Nat) (fraction : Fraction) : Int :=
  if fraction.numerator = 0 then 0
  else
    let guess : Int :=
      ((Nat.log2 fraction.numerator : Int) - Nat.log2 fraction.denominator) * 30103 / 100000 - 2
    let candidates := (List.range 6).map fun offset : Nat => guess + offset
    (candidates.find? fun power => fraction.rounded (power - places) < 10 ^ (places + 1)).getD guess

def powerText (power : Int) : List Char :=
  let digits := Nat.toDigits 10 power.natAbs
  'e' :: (if power < 0 then '-' else '+') :: List.replicate (2 - digits.length) '0' ++ digits

def scientific (places : Nat) (fraction : Fraction) : List Char :=
  let power := fraction.leadingPower places
  withPoint places (Nat.toDigits 10 (fraction.rounded (power - places))) ++ powerText power

def dropZeros (chars : List Char) : List Char :=
  if chars.contains '.' then
    let kept := (chars.reverse.dropWhile (· == '0')).reverse
    if kept.getLast? == some '.' then kept.dropLast else kept
  else chars

/-- So many significant digits, positionally where that is short. Zeros at the end may be kept. -/
def generally (keepsZeros : Bool) (digits : Nat) (fraction : Fraction) : List Char :=
  let shown (text : List Char) : List Char := if keepsZeros then text else dropZeros text
  let places := digits - 1
  let power := fraction.leadingPower places
  if power < -4 ∨ (digits : Int) ≤ power then
    let text := withPoint places (Nat.toDigits 10 (fraction.rounded (power - places)))
    shown text ++ powerText power
  else shown (fraction.positional ((places : Int) - power).toNat)

end Fraction

end StreamWidth.Shell
