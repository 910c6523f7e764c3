import StreamWidth.Shell.Escapes
import StreamWidth.Shell.Fractions
import StreamWidth.Shell.Arithmetic

/-!
Texts laid out by a format. The format is used again as long as there are arguments.
-/

namespace StreamWidth.Shell.Printf

structure Layout where
  flags : List Char
  width : Nat
  precision : Option Nat

structure State where
  arguments : List String
  output : List Char
  warnings : List String

inductive Stop
  | finished
  | broken (text : String)

abbrev Printing :=
  ExceptT Stop (StateM State)

def takeArgument? : Printing (Option String) := do
  let state ← get
  match state.arguments with
  | first :: rest => do
      set { state with arguments := rest }
      return some first
  | [] => return none

def put (chars : List Char) : Printing Unit :=
  modify fun state => { state with output := chars.reverse ++ state.output }

def warn (text : String) : Printing Unit :=
  modify fun state => { state with warnings := text :: state.warnings }

def pad (layout : Layout) (chars : List Char) : List Char :=
  let filling := List.replicate (layout.width - chars.length) ' '
  if layout.flags.contains '-' then chars ++ filling else filling ++ chars

def padNumber (layout : Layout) (zeros : Bool) (lead digits : List Char) : List Char :=
  if zeros && layout.flags.contains '0' && !layout.flags.contains '-' then
    lead ++ List.replicate (layout.width - lead.length - digits.length) '0' ++ digits
  else pad layout (lead ++ digits)

def signOf (layout : Layout) (negative : Bool) : List Char :=
  if negative then ['-']
  else if layout.flags.contains '+' then ['+']
  else if layout.flags.contains ' ' then [' ']
  else []

def preciseDigits (layout : Layout) (digits : List Char) : List Char :=
  match layout.precision with
  | some 0 => if digits = ['0'] then [] else digits
  | some count => List.replicate (count - digits.length) '0' ++ digits
  | none => digits

def signed (layout : Layout) (value : Int) : List Char :=
  padNumber layout layout.precision.isNone (signOf layout (value < 0))
    (preciseDigits layout (Nat.toDigits 10 value.natAbs))

def unsigned (layout : Layout) (conversion : Char) (value : Nat) : List Char :=
  let base := if conversion == 'o' then 8 else if conversion == 'u' then 10 else 16
  let digits := preciseDigits layout (Nat.toDigits base value)
  let digits := if conversion == 'X' then digits.map Char.toUpper else digits
  let marked := layout.flags.contains '#'
  let digits :=
    if marked && base == 8 && digits.head? != some '0' then '0' :: digits else digits
  let lead := if marked && base == 16 && value != 0 then ['0', conversion] else []
  padNumber layout layout.precision.isNone lead digits

def range (isSigned negative : Bool) (value : Nat) : Int × Bool :=
  if isSigned then
    if negative then (-(min value (2 ^ 63)), 2 ^ 63 < value)
    else (min value (2 ^ 63 - 1), 2 ^ 63 ≤ value)
  else if 2 ^ 64 ≤ value then (2 ^ 64 - 1, true)
  else (if negative then (-value) % 2 ^ 64 else value, false)

def leadingNumber? (chars : List Char) : Option (Nat × List Char) :=
  let read (base : Nat) (chars : List Char) : Option (Nat × List Char) :=
    let digits := chars.takeWhile fun c => (Text.digit? base c).isSome
    (Text.number? base digits).map fun value => (value, chars.drop digits.length)
  match chars with
  | '0' :: x :: rest =>
      if x == 'x' || x == 'X' then some ((read 16 rest).getD (0, x :: rest))
      else if x == 'b' || x == 'B' then some ((read 2 rest).getD (0, x :: rest))
      else read 8 chars
  | '0' :: _ => read 8 chars
  | _ => read 10 chars

def readNumber? (text : String) : Option (Bool × Nat × List Char) :=
  let chars := text.toList.dropWhile fun c => c == ' ' || ('\t' ≤ c && c ≤ '\r')
  let (negative, digits) :=
    match chars with
    | '-' :: rest => (true, rest)
    | '+' :: rest => (false, rest)
    | _ => (false, chars)
  (leadingNumber? digits).map fun (value, rest) => (negative, value, rest)

def quotedNumber? (text : String) : Option Nat :=
  match text.toList with
  | '"' :: rest | '\'' :: rest => some ((rest.head?.map Char.toNat).getD 0)
  | _ => none

def checkRest (text : String) (rest : List Char) : Printing Unit := do
  unless rest.isEmpty do
    warn (text ++ ": not completely converted")

def numberArgument (isSigned : Bool) : Printing Int := do
  match ← takeArgument? with
  | none => return 0
  | some text =>
      match quotedNumber? text with
      | some value => return value
      | none =>
          match readNumber? text with
          | none => do
              unless text.isEmpty do
                warn (text ++ ": expected numeric value")
              return 0
          | some (negative, value, rest) => do
              let (value, outside) := range isSigned negative value
              if outside then warn (text ++ ": Numerical result out of range")
              else checkRest text rest
              return value

def fractionArgument : Printing Fraction := do
  match ← takeArgument? with
  | none => return ⟨false, 0, 1⟩
  | some text =>
      let chars := text.toList.dropWhile fun c => c == ' ' || ('\t' ≤ c && c ≤ '\r')
      match quotedNumber? text, Fraction.read chars with
      | some value, _ => return ⟨false, value, 1⟩
      | none, some (value, rest) => do
          checkRest text rest
          return value
      | none, none => do
          unless text.isEmpty do
            warn (text ++ ": expected numeric value")
          return ⟨false, 0, 1⟩

def fractionText (layout : Layout) (conversion : Char) (value : Fraction) : List Char :=
  let precision := layout.precision.getD 6
  let marked := layout.flags.contains '#'
  let pointed (chars : List Char) : List Char :=
    let digits := chars.takeWhile Char.isDigit
    let after := chars.drop digits.length
    if marked && after.head? != some '.' then digits ++ '.' :: after else chars
  let sign := signOf layout value.negative
  let shown (chars : List Char) : List Char :=
    if conversion.isUpper then chars.map Char.toUpper else chars
  match conversion.toLower with
  | 'f' => padNumber layout true sign (pointed (value.positional precision))
  | 'e' => padNumber layout true sign (shown (pointed (value.scientific precision)))
  | _ => padNumber layout true sign (shown (pointed (value.generally marked (max precision 1))))

def textArgument (layout : Layout) (text : String) : List Char :=
  let chars := text.toList
  pad layout ((layout.precision.map fun count => chars.take count).getD chars)

def convert (layout : Layout) (conversion : Char) (directive : List Char) : Printing Unit := do
  match conversion with
  | 'b' => do
      let (text, ended) := resolve ((← takeArgument?).getD "")
      put (textArgument layout text)
      if ended then throw .finished
  | 'c' => put (pad layout [(((← takeArgument?).getD "").toList.head?).getD '\x00'])
  | 's' => put (textArgument layout ((← takeArgument?).getD ""))
  | 'd' | 'i' => put (signed layout (← numberArgument true))
  | 'o' | 'u' | 'x' | 'X' => put (unsigned layout conversion (← numberArgument false).toNat)
  | 'e' | 'E' | 'f' | 'F' | 'g' | 'G' =>
      put (fractionText layout conversion (← fractionArgument))
  | _ => throw (.broken (String.ofList directive ++ ": invalid directive"))

def count (chars : List Char) : Printing (Option Int × List Char) := do
  match chars with
  | '*' :: rest => return (some (← numberArgument true), rest)
  | _ =>
      let digits := chars.takeWhile Char.isDigit
      return ((Text.number? 10 digits).map Int.ofNat, chars.drop digits.length)

def directive (chars : List Char) : Printing (List Char) := do
  let flags := chars.takeWhile ['#', '-', '+', ' ', '0'].contains
  let (width, rest) ← count (chars.drop flags.length)
  let flags := if width.any (· < 0) then '-' :: flags else flags
  let (precision, rest) ←
    match rest with
    | '.' :: more => do
        let (precision, rest) ← count more
        pure (some (precision.getD 0), rest)
    | _ => pure (none, rest)
  let precision := precision.bind fun value => if value < 0 then none else some value.toNat
  match rest with
  | [] => throw (.broken "missing format character")
  | conversion :: after => do
      let text := '%' :: chars.take (chars.length - after.length)
      convert ⟨flags, (width.map Int.natAbs).getD 0, precision⟩ conversion text
      return after

/-- Goes through the format once; the fuel is its length. -/
def pass : Nat → List Char → Printing Unit
  | 0, _ => return
  | _, [] => return
  | fuel + 1, '%' :: '%' :: rest => do
      put ['%']
      pass fuel rest
  | fuel + 1, '%' :: rest => do pass fuel (← directive rest)
  | fuel + 1, '\\' :: rest => do
      let (c, rest) := escaped rest
      put [c]
      pass fuel rest
  | fuel + 1, c :: rest => do
      put [c]
      pass fuel rest

def passes (format : List Char) : Nat → Printing Unit
  | 0 => return
  | fuel + 1 => do
      let before := (← get).arguments.length
      pass (format.length + 1) format
      let after := (← get).arguments.length
      if 0 < after && after < before then passes format fuel

structure Result where
  output : String
  warnings : List String
  broken : Option String

def run (format : String) (arguments : List String) : Result :=
  let (ending, state) := (passes format.toList (arguments.length + 1)).run ⟨arguments, [], []⟩
  let broken :=
    match ending with
    | .error (.broken text) => some text
    | _ => none
  ⟨String.ofList state.output.reverse, state.warnings.reverse, broken⟩

end StreamWidth.Shell.Printf
