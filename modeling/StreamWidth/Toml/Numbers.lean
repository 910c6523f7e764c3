import StreamWidth.Power
import StreamWidth.Text.Digits
import StreamWidth.Toml.Reader

/-!
Numbers and dates. Integers have 64 bits; of a floating-point number only the form and the range
matter here, and of a date its text.
-/

namespace StreamWidth.Toml

def digitRun (accept : Char → Bool) : List Char → List Char × List Char
  | '_' :: c :: rest =>
      if accept c then
        let (digits, rest) := digitRun accept rest
        (c :: digits, rest)
      else ([], '_' :: c :: rest)
  | c :: rest =>
      if accept c then
        let (digits, rest) := digitRun accept rest
        (c :: digits, rest)
      else ([], c :: rest)
  | [] => ([], [])

def digits (accept : Char → Bool) : Reader (List Char) := do
  let first ← Reader.satisfy accept
  let rest ← fun chars => some (digitRun accept chars)
  return first :: rest

def sign : Reader Bool := do
  match ← Reader.peek with
  | some '-' => do
      Reader.char '-'
      return true
  | some '+' => do
      Reader.char '+'
      return false
  | _ => return false

def decimalDigits : Reader (List Char) := do
  match ← Reader.peek with
  | some '0' => do
      Reader.char '0'
      return ['0']
  | _ => digits Char.isDigit

def value (base : Nat) (digits : List Char) : Nat :=
  (Text.number? base digits).getD 0

def signedValue (negative : Bool) (magnitude : Nat) : Int :=
  if negative then -(magnitude : Int) else magnitude

def inRange (n : Int) : Reader Int :=
  if -2 ^ 63 ≤ n ∧ n < 2 ^ 63 then return n else failure

def baseInteger (mark : Char) (base : Nat) : Reader Int := do
  Reader.char '0'
  Reader.char mark
  inRange (value base (← digits fun c => (Text.digit? base c).isSome))

def decimalInteger : Reader Int := do
  let negative ← sign
  inRange (signedValue negative (value 10 (← decimalDigits)))

def integer : Reader Int := do
  match (← get).take 2 with
  | ['0', 'x'] => baseInteger 'x' 16
  | ['0', 'o'] => baseInteger 'o' 8
  | ['0', 'b'] => baseInteger 'b' 2
  | _ => decimalInteger

def exponent : Reader Int := do
  let _ ← Reader.satisfy fun c => c == 'e' || c == 'E'
  let negative ← sign
  return signedValue negative (value 10 (← digits Char.isDigit))

def fraction : Reader (List Char) := do
  Reader.char '.'
  digits Char.isDigit

/-- The least number that double precision rounds to infinity. -/
def overflowBound : Nat :=
  2 ^ 1024 - 2 ^ 970

def certainPower : Int :=
  400

def isFinite (digits : Nat) (power : Int) : Bool :=
  let magnitude := power + (Nat.toDigits 10 digits).length
  digits == 0 || magnitude ≤ 0 ||
    (magnitude < certainPower &&
      digits * 10 ^ power.toNat < overflowBound * 10 ^ (-power).toNat)

/-- A number with a fraction or an exponent. Only a positive one may be too large. -/
def decimalFloat : Reader Unit := do
  let negative ← sign
  let whole ← decimalDigits
  let fractionDigits ← Reader.optional fraction
  let power ← Reader.optional exponent
  if fractionDigits.isNone && power.isNone then
    failure
  let decimals := fractionDigits.getD []
  if !negative && !isFinite (value 10 (whole ++ decimals)) (power.getD 0 - decimals.length) then
    failure

def specialFloat : Reader Unit := do
  let _ ← sign
  Reader.text "inf" <|> Reader.text "nan"

def float : Reader Unit :=
  decimalFloat <|> specialFloat

def field (digits low high : Nat) : Reader Nat := do
  let number := value 10 (← Reader.exactly Char.isDigit digits)
  if low ≤ number ∧ number ≤ high then return number else failure

def isLeapYear (year : Nat) : Bool :=
  year % 4 == 0 && (year % 100 != 0 || year % 400 == 0)

def monthLength (year month : Nat) : Nat :=
  if month = 2 then if isLeapYear year then 29 else 28
  else if [4, 6, 9, 11].contains month then 30
  else 31

def date : Reader (List Char) :=
  Reader.consumed do
    let year ← field 4 0 9999
    Reader.char '-'
    let month ← field 2 1 12
    Reader.char '-'
    field 2 1 (monthLength year month)

def clock : Reader (List Char) :=
  Reader.consumed do
    let _ ← field 2 0 23
    Reader.char ':'
    let _ ← field 2 0 59
    Reader.char ':'
    field 2 0 60

def secondDigits : Nat :=
  9

def secondFraction : Reader (List Char) := do
  Reader.char '.'
  let digits ← Reader.takeWhile Char.isDigit
  if digits.isEmpty then
    failure
  let kept := ((digits.take secondDigits).reverse.dropWhile (· == '0')).reverse
  return if kept.isEmpty then [] else '.' :: kept

def time : Reader (List Char) := do
  let clock ← clock
  let fraction ← Reader.optional secondFraction
  return clock ++ fraction.getD []

def zuluOffset : Reader (List Char) := do
  let _ ← Reader.satisfy fun c => c == 'Z' || c == 'z'
  return ['Z']

def signedOffset : Reader (List Char) := do
  let mark ← Reader.satisfy fun c => c == '+' || c == '-'
  let text ← Reader.consumed do
    let _ ← field 2 0 23
    Reader.char ':'
    field 2 0 59
  return (if text.all fun c => c == '0' || c == ':' then '+' else mark) :: text

def timeWithOffset : Reader (List Char) := do
  let _ ← Reader.satisfy fun c => ['T', 't', ' '].contains c
  let time ← time
  let offset ← Reader.optional (zuluOffset <|> signedOffset)
  return 'T' :: time ++ offset.getD []

/-- A date, a time or both, in the one form in which they are written. -/
def dateTime : Reader String :=
  (do
    let date ← date
    let time ← Reader.optional timeWithOffset
    return String.ofList (date ++ time.getD [])) <|>
  (do
    return String.ofList (← time))

end StreamWidth.Toml
