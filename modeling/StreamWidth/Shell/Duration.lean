import StreamWidth.Shell.Fractions

/-!
Lengths of time in nanoseconds, as they are written in seconds, minutes, hours or days.
-/

namespace StreamWidth.Shell.Duration

def endless : Nat :=
  1 <<< 65

def secondsOf (unit : Char) : Nat :=
  match unit with
  | 'm' => 60
  | 'h' => 3600
  | 'd' => 86400
  | _ => 1

/-- The length of time that a text stands for, rounded up. -/
def read? (text : String) : Option Nat :=
  let chars := text.toList
  let unit := (chars.getLast?.filter ['s', 'm', 'h', 'd'].contains).getD 's'
  let number := if chars.getLast?.any ['s', 'm', 'h', 'd'].contains then chars.dropLast else chars
  if ["inf", "infinity"].contains (String.ofList (number.map Char.toLower)) then some endless
  else
    match Fraction.read number with
    | some (fraction, []) =>
        if fraction.negative then none
        else
          let scaled := fraction.numerator * secondsOf unit * 1000000000
          some (min endless ((scaled + fraction.denominator - 1) / fraction.denominator))
    | _ => none

def sum? (texts : List String) : Option Nat :=
  texts.foldlM (fun sum text => (read? text).map (sum + ·)) 0

end StreamWidth.Shell.Duration
