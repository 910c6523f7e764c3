/-!
Numbers written in digits, most significant digit first. Digits are ASCII; above nine they are
letters of either case.
-/

namespace StreamWidth.Text

def digit? (base : Nat) (c : Char) : Option Nat :=
  let value :=
    if '0' ≤ c ∧ c ≤ '9' then c.toNat - '0'.toNat
    else if 'a' ≤ c ∧ c ≤ 'z' then c.toNat - 'a'.toNat + 10
    else if 'A' ≤ c ∧ c ≤ 'Z' then c.toNat - 'A'.toNat + 10
    else base
  if value < base then some value else none

def extendNumber? (base value : Nat) (c : Char) : Option Nat :=
  (digit? base c).map (base * value + ·)

def number? (base : Nat) (digits : List Char) : Option Nat :=
  if digits.isEmpty then none else digits.foldlM (extendNumber? base) 0

end StreamWidth.Text
