import StreamWidth.Power
import StreamWidth.Shell.Words
import StreamWidth.Text.Digits

/-!
Arithmetic of the shell: integers of 64 bits that wrap around, with the operators of C. What is
assigned on the way is part of the answer.
-/

namespace StreamWidth.Shell

def wrapInteger (n : Int) : Int :=
  Int.bmod n (2 ^ 64)

def greatest : Nat :=
  2 ^ 63 - 1

def takeNumber (chars : List Char) : Option (Nat × List Char) :=
  let read (base : Nat) (chars : List Char) : Option (Nat × List Char) :=
    let digits := chars.takeWhile fun c => (Text.digit? base c).isSome
    if digits.isEmpty then none
    else some ((Text.number? base digits).getD 0, chars.drop digits.length)
  match chars with
  | '0' :: x :: rest =>
      if x == 'x' || x == 'X' then
        match read 16 rest with
        | some found => some found
        | none => some (0, x :: rest)
      else if x == 'b' || x == 'B' then
        match read 2 rest with
        | some found => some found
        | none => some (0, x :: rest)
      else read 8 chars
  | _ => if chars.head? == some '0' then read 8 chars else read 10 chars

def dropSpaces (chars : List Char) : List Char :=
  chars.dropWhile fun c => c == ' ' || c == '\t' || c == '\n'

/-- A number with a sign and blanks around it, or blanks alone, which count as zero. No number
outside 64 bits is one. -/
def wholeNumber? (text : String) : Option Int := do
  let chars := dropSpaces text.toList
  if chars.isEmpty then return 0
  let (negative, chars) :=
    match chars with
    | '-' :: rest => (true, rest)
    | '+' :: rest => (false, rest)
    | _ => (false, chars)
  let (value, rest) ← takeNumber chars
  let value := if negative then -(value : Int) else value
  if (dropSpaces rest).isEmpty && Int.bmod value (2 ^ 64) == value then return value else none

inductive SumError
  | broken (cause : String)
  | illegalNumber (text : String)

structure SumState where
  rest : List Char
  bindings : String → Option String
  assigned : List (String × Int)

abbrev Calculation :=
  StateT SumState (Except SumError)

namespace Calculation

def operators : List String :=
  ["<<=", ">>=", "&&", "||", "<<", ">>", "<=", ">=", "==", "!=", "*=", "/=", "%=", "+=", "-=", "&=",
    "^=", "|=", "+", "-", "*", "/", "%", "<", ">", "&", "^", "|", "!", "~", "?", ":", "(", ")", "="]

def peekOperator : Calculation (Option String) := do
  modify fun state => { state with rest := dropSpaces state.rest }
  let rest := (← get).rest
  return operators.find? fun operator => operator.toList.isPrefixOf rest

def dropOperator (operator : String) : Calculation Unit := do
  modify fun state => { state with rest := state.rest.drop operator.length }

def takeIf (operator : String) : Calculation Bool := do
  if (← peekOperator) == some operator then
    dropOperator operator
    return true
  return false

def valueOf (name : String) : Calculation Int := do
  let state ← get
  match state.assigned.find? (·.1 == name) with
  | some (_, value) => return value
  | none =>
      match state.bindings name with
      | none | some "" => return 0
      | some text =>
          match wholeNumber? text with
          | some value => return value
          | none => throw (.illegalNumber text)

def truth (condition : Bool) : Int :=
  if condition then 1 else 0

def bitsOf (n : Int) : Nat :=
  (n % 2 ^ 64).toNat

def apply (operator : String) (a b : Int) : Calculation Int := do
  let bitwise (f : Nat → Nat → Nat) : Int := wrapInteger (f (bitsOf a) (bitsOf b))
  let nonZero (value : Int) : Calculation Int := do
    if b = 0 then throw (.broken "division by zero") else return value
  match operator with
  | "*" => return wrapInteger (a * b)
  | "/" => nonZero (wrapInteger (a.tdiv b))
  | "%" => nonZero (a.tmod b)
  | "+" => return wrapInteger (a + b)
  | "-" => return wrapInteger (a - b)
  | "<<" => return wrapInteger (a * 2 ^ (bitsOf b % 64))
  | ">>" => return a / 2 ^ (bitsOf b % 64)
  | "<" => return truth (a < b)
  | ">" => return truth (b < a)
  | "<=" => return truth (a ≤ b)
  | ">=" => return truth (b ≤ a)
  | "==" => return truth (a == b)
  | "!=" => return truth (a != b)
  | "&" => return bitwise Nat.land
  | "^" => return bitwise Nat.xor
  | _ => return bitwise Nat.lor

/-- How tightly the operators between two values bind. -/
def level? : String → Option Nat
  | "*" | "/" | "%" => some 8
  | "+" | "-" => some 7
  | "<<" | ">>" => some 6
  | "<" | ">" | "<=" | ">=" => some 5
  | "==" | "!=" => some 4
  | "&" => some 3
  | "^" => some 2
  | "|" => some 1
  | _ => none

def isAssignment (operator : String) : Bool :=
  ["=", "*=", "/=", "%=", "+=", "-=", "<<=", ">>=", "&=", "^=", "|="].contains operator

inductive Form
  | assignment
  | choice
  | disjunction
  | conjunction
  | binary (level : Nat)
  | primary

def operand? : Calculation (Option (String ⊕ Int)) := do
  modify fun state => { state with rest := dropSpaces state.rest }
  let state ← get
  match state.rest with
  | c :: _ =>
      if isNameStart c then
        let name := state.rest.takeWhile isNameChar
        set { state with rest := state.rest.drop name.length }
        return some (.inl (String.ofList name))
      else
        match takeNumber state.rest with
        | some (value, rest) => do
            set { state with rest }
            return some (.inr (min value greatest : Nat))
        | none => return none
  | [] => return none

abbrev Reader :=
  Form → Bool → Calculation Int

def binaryRest (inner : Reader) (skipped : Bool) (level : Nat) : Nat → Int → Calculation Int
  | 0, value => return value
  | fuel + 1, value => do
      match ← peekOperator with
      | none => return value
      | some operator =>
          match level? operator with
          | none => return value
          | some found =>
              if found < level then return value
              else
                dropOperator operator
                let right ← inner (.binary (found + 1)) skipped
                let value ← if skipped then pure value else apply operator value right
                binaryRest inner skipped level fuel value

def conjunctionRest (inner : Reader) (skipped : Bool) : Nat → Int → Calculation Int
  | 0, value => return value
  | fuel + 1, value => do
      if ← takeIf "&&" then
        let right ← inner (.binary 1) (skipped || value == 0)
        conjunctionRest inner skipped fuel (truth (value != 0 && right != 0))
      else return value

def disjunctionRest (inner : Reader) (skipped : Bool) : Nat → Int → Calculation Int
  | 0, value => return value
  | fuel + 1, value => do
      if ← takeIf "||" then
        let right ← inner .conjunction (skipped || value != 0)
        disjunctionRest inner skipped fuel (truth (value != 0 || right != 0))
      else return value

def assign (name : String) (value : Int) : Calculation Int := do
  modify fun state => { state with assigned := (name, value) :: state.assigned }
  return value

def assignment (inner : Reader) (skipped : Bool) : Calculation Int := do
  let start ← get
  match ← operand? with
  | some (.inl name) => do
      match ← peekOperator with
      | some operator =>
          if isAssignment operator then
            dropOperator operator
            let right ← inner .assignment skipped
            if skipped then return right
            else if operator == "=" then assign name right
            else assign name (← apply (String.ofList operator.toList.dropLast) (← valueOf name) right)
          else do
            set start
            inner .choice skipped
      | none => do
          set start
          inner .choice skipped
  | _ => do
      set start
      inner .choice skipped

def choice (inner : Reader) (skipped : Bool) : Calculation Int := do
  let test ← inner .disjunction skipped
  if ← takeIf "?" then
    let first ← inner .assignment (skipped || test == 0)
    unless ← takeIf ":" do
      throw (.broken "expecting ':'")
    let second ← inner .choice (skipped || test != 0)
    return if test != 0 then first else second
  else return test

def primary (inner : Reader) (skipped : Bool) : Calculation Int := do
  if ← takeIf "(" then
    let value ← inner .assignment skipped
    unless ← takeIf ")" do
      throw (.broken "expecting ')'")
    return value
  else if ← takeIf "+" then inner .primary skipped
  else if ← takeIf "-" then return wrapInteger (-(← inner .primary skipped))
  else if ← takeIf "!" then return truth ((← inner .primary skipped) == 0)
  else if ← takeIf "~" then return -(← inner .primary skipped) - 1
  else
    match ← operand? with
    | some (.inr value) => return value
    | some (.inl name) => if skipped then return 0 else valueOf name
    | none => throw (.broken "expecting primary")

def read : Nat → Reader
  | 0, _, _ => throw (.broken "expecting primary")
  | fuel + 1, form, skipped => do
      let inner := read fuel
      let count := (← get).rest.length
      match form with
      | .assignment => assignment inner skipped
      | .choice => choice inner skipped
      | .disjunction => disjunctionRest inner skipped count (← inner .conjunction skipped)
      | .conjunction => conjunctionRest inner skipped count (← inner (.binary 1) skipped)
      | .binary level => binaryRest inner skipped level count (← inner .primary skipped)
      | .primary => primary inner skipped

/-- The value of a whole expression, and the variables that it sets, the latest first. An empty one
counts as zero. -/
def evaluate (bindings : String → Option String) (text : String) :
    Except SumError (Int × List (String × Int)) := do
  let chars := dropSpaces text.toList
  if chars.isEmpty then throw (.broken "expecting primary")
  let (value, state) ← (read (8 * chars.length + 8) .assignment false).run ⟨chars, bindings, []⟩
  if (dropSpaces state.rest).isEmpty then return (value, state.assigned)
  else throw (.broken "expecting EOF")

end Calculation

end StreamWidth.Shell
