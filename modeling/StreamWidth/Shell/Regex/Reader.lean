import StreamWidth.Shell.Regex
import StreamWidth.Text.Digits

/-!
Reading regular expressions, in which operators either stand behind backslashes or stand for
themselves there.
-/

namespace StreamWidth.Shell.Regex

structure ReaderState where
  rest : List Char
  groups : Nat
  closed : List Nat
  strict : Bool

abbrev Reader :=
  StateT ReaderState (Except String)

/-- What an operator or a character in an expression stands for. -/
inductive Sign
  | char (c : Char)
  | any
  | set
  | start
  | finish
  | opening
  | closing
  | bar
  | star
  | plus
  | option
  | interval
  | again (number : Nat)
  | anchor (kind : Anchor)
  | kind (negated : Bool) (members : List SetMember)
  deriving Inhabited

def wordMembers : List SetMember :=
  [.kind "alnum", .range '_' '_']

def escapedSign (extended : Bool) (c : Char) : Sign :=
  match c with
  | '(' => if extended then .char c else .opening
  | ')' => if extended then .char c else .closing
  | '\x7b' => if extended then .char c else .interval
  | '|' => if extended then .char c else .bar
  | '+' => if extended then .char c else .plus
  | '?' => if extended then .char c else .option
  | 'w' => .kind false wordMembers
  | 'W' => .kind true wordMembers
  | 's' => .kind false [.kind "space"]
  | 'S' => .kind true [.kind "space"]
  | 'b' => .anchor .wordEdge
  | 'B' => .anchor .inside
  | '<' => .anchor .wordStart
  | '>' => .anchor .wordEnd
  | '\x60' => .anchor .textStart
  | '\'' => .anchor .textEnd
  | _ => if c.isDigit && c != '0' then .again (c.toNat - '0'.toNat) else .char c

def plainSign (extended : Bool) (c : Char) : Sign :=
  match c with
  | '.' => .any
  | '[' => .set
  | '*' => .star
  | '^' => .start
  | '$' => .finish
  | '(' => if extended then .opening else .char c
  | ')' => if extended then .closing else .char c
  | '\x7b' => if extended then .interval else .char c
  | '|' => if extended then .bar else .char c
  | '+' => if extended then .plus else .char c
  | '?' => if extended then .option else .char c
  | _ => .char c

def sign? (extended : Bool) : List Char → Except String (Option (Sign × List Char))
  | [] => .ok none
  | ['\\'] => .error "Trailing backslash"
  | '\\' :: c :: rest => .ok (some (escapedSign extended c, rest))
  | c :: rest => .ok (some (plainSign extended c, rest))

def next? (extended : Bool) : Reader (Option Sign) := do
  let state ← get
  match ← sign? extended state.rest with
  | none => return none
  | some (sign, rest) => do
      set { state with rest }
      return some sign

def peek? (extended : Bool) : Reader (Option Sign) := do
  let state ← get
  return (← sign? extended state.rest).map (·.1)

def setMember (chars : List Char) : Except String (SetMember × List Char) :=
  match chars with
  | '[' :: ':' :: rest =>
      let name := rest.takeWhile (· != ':')
      match rest.drop name.length with
      | ':' :: ']' :: rest =>
          if ["alpha", "digit", "alnum", "upper", "lower", "space", "blank", "punct", "print", "graph",
              "cntrl", "xdigit"].contains (String.ofList name) then
            .ok (.kind (String.ofList name), rest)
          else .error "Invalid character class name"
      | _ => .error "Unmatched [, [^, [:, [., or [="
  | '[' :: '=' :: c :: '=' :: ']' :: rest => .ok (.range c c, rest)
  | '[' :: '.' :: c :: '.' :: ']' :: rest => .ok (.range c c, rest)
  | low :: '-' :: high :: rest =>
      if high == ']' then .ok (.range low low, '-' :: high :: rest)
      else if high < low then .error "Invalid range end"
      else .ok (.range low high, rest)
  | c :: rest => .ok (.range c c, rest)
  | [] => .error "Unmatched [, [^, [:, [., or [="

def setMembers : Nat → Bool → List Char → Except String (List SetMember × List Char)
  | 0, _, _ => .error "Unmatched [, [^, [:, [., or [="
  | fuel + 1, isFirst, chars =>
      match chars, isFirst with
      | ']' :: rest, false => .ok ([], rest)
      | chars, _ => do
          let (member, rest) ← setMember chars
          let (members, rest) ← setMembers fuel false rest
          return (member :: members, rest)

def readSet : Reader Regex := do
  let state ← get
  let (negated, chars) :=
    match state.rest with
    | '^' :: rest => (true, rest)
    | chars => (false, chars)
  if chars.isEmpty then throw "Invalid regular expression"
  let (members, rest) ← setMembers (chars.length + 1) true chars
  set { state with rest }
  return .oneOf negated members

def repetitionLimit : Nat :=
  32767

def intervalFailure (extended : Bool) (rest : List Char) : String :=
  let isClosed :=
    if extended then rest.contains '\x7d'
    else (String.ofList rest).splitOn "\\\x7d" |>.length |> (1 < ·)
  if isClosed then "Invalid content of \\\x7b\\\x7d" else "Unmatched \\\x7b"

/-- The bounds of an interval behind its opening brace. An extended expression may have a brace
that opens none. -/
def readInterval (extended : Bool) : Reader (Option (Nat × Option Nat)) := do
  let state ← get
  let least := state.rest.takeWhile Char.isDigit
  let rest := state.rest.drop least.length
  let (most, rest) : Option (List Char) × List Char :=
    match rest with
    | ',' :: rest => (some (rest.takeWhile Char.isDigit), rest.dropWhile Char.isDigit)
    | _ => (none, rest)
  let after? : Option (List Char) :=
    match rest with
    | '\x7d' :: rest => if extended then some rest else none
    | '\\' :: '\x7d' :: rest => if extended then none else some rest
    | _ => none
  match after? with
  | none =>
      if extended && !state.strict then return none
      else throw (intervalFailure extended state.rest)
  | some rest => do
      if least.isEmpty && most.isNone then throw (intervalFailure extended state.rest)
      let low := (Text.number? 10 least).getD 0
      let high : Option Nat :=
        match most with
        | none => some low
        | some digits => Text.number? 10 digits
      if high.any (· < low) then throw (intervalFailure extended state.rest)
      if repetitionLimit < high.getD low then throw "Regular expression too big"
      set { state with rest }
      return some (low, high)

def repetitions (extended : Bool) : Nat → Regex → Reader Regex
  | 0, regex => return regex
  | fuel + 1, regex => do
      let state ← get
      let repeated (least : Nat) (most : Option Nat) : Reader Regex := do
        let _ ← next? extended
        repetitions extended fuel (.repeated regex least most)
      match ← peek? extended with
      | some .star => repeated 0 none
      | some .plus => repeated 1 none
      | some .option => repeated 0 (some 1)
      | some .interval => do
          let _ ← next? extended
          match ← readInterval extended with
          | some (least, most) => repetitions extended fuel (.repeated regex least most)
          | none => do
              set state
              return regex
      | _ => return regex

def atBranchEnd (extended : Bool) : Reader Bool := do
  match ← peek? extended with
  | none | some .bar | some .closing => return true
  | _ => return false

def readPiece (extended : Bool) (inner : Reader Regex) (isFirst : Bool) (sign : Sign) :
    Reader Regex := do
  match sign with
  | .char c => return .char c
  | .any => return .any
  | .set => readSet
  | .kind negated members => return .oneOf negated members
  | .anchor kind => return .anchor kind
  | .start => return if extended || isFirst then .anchor .start else .char '^'
  | .finish => do
      if extended || (← atBranchEnd extended) then return .anchor .finish else return .char '$'
  | .opening => do
      let number := (← get).groups + 1
      modify fun state => { state with groups := number }
      let regex ← inner
      match ← next? extended with
      | some .closing => do
          modify fun state => { state with closed := number :: state.closed }
          return .group number regex
      | _ => throw "Unmatched ( or \\("
  | .again number =>
      if (← get).closed.contains number then return .again number
      else throw "Invalid back reference"
  | .star => return .char '*'
  | .plus => return .char '+'
  | .option => return .char '?'
  | .interval => return .char '\x7b'
  | .closing => return .char ')'
  | .bar => return .empty

def isRepetition (sign : Sign) : Bool :=
  match sign with
  | .star | .plus | .option => true
  | _ => false

def refusesRepetition (extended strict : Bool) (sign : Sign) : Bool :=
  strict && ((sign matches .interval) || (extended && isRepetition sign))

def readBranch (extended : Bool) (inner : Reader Regex) (depth : Nat) : Nat → Bool → Reader Regex
  | 0, _ => return .empty
  | fuel + 1, isFirst => do
      match ← peek? extended with
      | none | some .bar => return .empty
      | some .closing =>
          if depth = 0 then
            if extended && !(← get).strict then do
              let _ ← next? extended
              let regex ← repetitions extended fuel (.char ')')
              return .sequence regex (← readBranch extended inner depth fuel false)
            else throw "Unmatched ) or \\)"
          else return .empty
      | some sign => do
          let _ ← next? extended
          if isFirst && refusesRepetition extended (← get).strict sign then
            throw "Invalid preceding regular expression"
          else if extended && isFirst && isRepetition sign then
            readBranch extended inner depth fuel true
          else
            let piece ← readPiece extended inner isFirst sign
            let isAnchor := (sign matches .start) && (isFirst || extended)
            let piece ← if isAnchor then pure piece else repetitions extended fuel piece
            return .sequence piece (← readBranch extended inner depth fuel isAnchor)

def readBranches (extended : Bool) (inner : Reader Regex) (depth : Nat) : Nat → Reader Regex
  | 0 => return .empty
  | fuel + 1 => do
      let branch ← readBranch extended inner depth ((← get).rest.length + 1) true
      match ← peek? extended with
      | some .bar => do
          let _ ← next? extended
          return .either branch (← readBranches extended inner depth fuel)
      | _ => return branch

def readNested (extended : Bool) : Nat → Nat → Reader Regex
  | 0, _ => throw "Regular expression too big"
  | fuel + 1, depth => do
      readBranches extended (readNested extended fuel (depth + 1)) depth ((← get).rest.length + 1)

/-- The expression that a text stands for, or what is wrong with it. -/
def parse (extended strict : Bool) (text : List Char) : Except String Regex := do
  let (regex, _) ← (readNested extended (text.length + 1) 0).run ⟨text, 0, [], strict⟩
  return regex

def literal (text : List Char) : Regex :=
  text.foldr (fun c regex => .sequence (.char c) regex) .empty

end StreamWidth.Shell.Regex
