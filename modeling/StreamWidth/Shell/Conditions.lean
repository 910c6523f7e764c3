import StreamWidth.Files.Directory
import StreamWidth.Shell.Arithmetic
import StreamWidth.Shell.Bytes

/-!
Conditions on texts, numbers and files, as they are written in the words of a command.
-/

namespace StreamWidth.Shell

namespace Condition

inductive Operator
  | unary
  | binary
  | conjunction
  | disjunction
  | negation
  | opening
  | closing
  deriving DecidableEq

def operator? (text : String) : Option Operator :=
  match text with
  | "!" => some .negation
  | "-a" => some .conjunction
  | "-o" => some .disjunction
  | "(" => some .opening
  | ")" => some .closing
  | _ =>
      if ["=", "!=", "<", ">", "-eq", "-ne", "-ge", "-gt", "-le", "-lt", "-nt", "-ot",
          "-ef"].contains text then some .binary
      else if ["-r", "-w", "-x", "-e", "-f", "-d", "-c", "-b", "-p", "-u", "-g", "-k", "-s", "-t",
          "-z", "-n", "-h", "-O", "-G", "-L", "-S"].contains text then some .unary
      else none

def token? : List String → Option Operator
  | [] => none
  | text :: rest =>
      match operator? text with
      | some .unary =>
          match rest with
          | [] => none
          | [_] => some .unary
          | second :: _ => if operator? second = some .binary then none else some .unary
      | some .opening => if rest.isEmpty then none else some .opening
      | other => other

abbrev Reader :=
  StateT (List String) (Except String)

def illegalNumber {α : Type} (text : String) : Reader α :=
  throw ("Illegal number: " ++ text)

def number (text : String) : Reader Int := do
  let chars := dropSpaces text.toList
  let (negative, digits) :=
    match chars with
    | '-' :: rest => (true, rest)
    | '+' :: rest => (false, rest)
    | _ => (false, chars)
  let places := digits.takeWhile Char.isDigit
  match Text.number? 10 places with
  | some value =>
      if (dropSpaces (digits.drop places.length)).isEmpty && value < 2 ^ 63 then
        return if negative then -(value : Int) else value
      else illegalNumber text
  | none => illegalNumber text

def ofFile (files : FileTree) (operator path : String) : Bool :=
  match if operator == "-h" || operator == "-L" then files.findName path else files.find path with
  | .error _ => false
  | .ok entry =>
      match operator, entry with
      | "-f", .file _ _ => true
      | "-x", .file _ mode => FileTree.runs mode
      | "-s", .file content _ => !content.isEmpty
      | "-d", .directory _ | "-x", .directory _ | "-s", .directory _ => true
      | "-c", .device _ | "-p", .pipe _ _ => true
      | "-h", .link _ | "-L", .link _ => true
      | "-u", entry => entry.mode.testBit 11
      | "-g", entry => entry.mode.testBit 10
      | "-k", entry => entry.mode.testBit 9
      | "-e", _ | "-r", _ | "-w", _ | "-O", _ | "-G", _ => true
      | _, _ => false

def isNewer (files : FileTree) (left right : String) : Bool :=
  match files.locate left, files.locate right with
  | .ok left, .ok right =>
      match files.age? left, files.age? right with
      | some left, some right => left < right
      | _, _ => false
  | _, _ => false

def unary (files : FileTree) (operator text : String) : Reader Bool := do
  match operator with
  | "-z" => return text.isEmpty
  | "-n" => return !text.isEmpty
  | "-t" => do
      let _ ← number text
      return false
  | _ => return ofFile files operator (decode text)

def binary (files : FileTree) (left operator right : String) : Reader Bool := do
  let compare (holds : Int → Int → Bool) : Reader Bool := do
    let left ← number left
    return holds left (← number right)
  let found (path : String) : Bool := files.pathExists (decode path)
  match operator with
  | "=" => return left == right
  | "!=" => return left != right
  | "<" => return left < right
  | ">" => return right < left
  | "-eq" => compare fun a b => a == b
  | "-ne" => compare fun a b => a != b
  | "-ge" => compare fun a b => b ≤ a
  | "-gt" => compare fun a b => b < a
  | "-le" => compare fun a b => a ≤ b
  | "-lt" => compare fun a b => a < b
  | "-nt" => return isNewer files (decode left) (decode right)
  | "-ot" => return isNewer files (decode right) (decode left)
  | _ => return found left && found right &&
      (files.locate (decode left)).toOption == (files.locate (decode right)).toOption

inductive Goal
  | disjunction
  | negation
  | primary

abbrev ConditionReader :=
  Goal → Reader Bool

def drop : Reader Unit :=
  modify (·.drop 1)

def conjunctions (inner : ConditionReader) : Nat → Bool → Reader Bool
  | 0, value => return value
  | fuel + 1, value => do
      let value := (← inner .negation) && value
      if token? ((← get).drop 1) = some .conjunction then
        modify (·.drop 2)
        conjunctions inner fuel value
      else return value

def disjunctions (inner : ConditionReader) : Nat → Bool → Reader Bool
  | 0, value => return value
  | fuel + 1, value => do
      let value := (← conjunctions inner (fuel + 1) true) || value
      if token? ((← get).drop 1) = some .disjunction then
        modify (·.drop 2)
        disjunctions inner fuel value
      else return value

def negation (inner : ConditionReader) : Reader Bool := do
  let words ← get
  if token? words = some .negation then
    if 1 < words.length then
      drop
      return !(← inner .negation)
    else return true
  else inner .primary

def primary (inner : ConditionReader) (files : FileTree) : Reader Bool := do
  let words ← get
  match words with
  | [] => return false
  | first :: rest =>
      if token? words = some .opening then
        drop
        if token? rest = some .closing then return false
        else
          let value ← inner .disjunction
          drop
          if token? (← get) = some .closing then return value
          else throw "closing paren expected"
      else if token? words = some .unary then
        match rest with
        | [] => throw (first ++ ": argument expected")
        | text :: _ => do
            drop
            unary files first text
      else
        match rest with
        | operator :: after =>
            if token? rest = some .binary then
              match after with
              | [] => throw (operator ++ ": argument expected")
              | right :: _ => do
                  modify (·.drop 2)
                  binary files first operator right
            else return !first.isEmpty
        | [] => return !first.isEmpty

def read (files : FileTree) : Nat → ConditionReader
  | 0, _ => throw "too long"
  | fuel + 1, goal => do
      let inner : ConditionReader := read files fuel
      let count := (← get).length + 1
      match goal with
      | .disjunction => disjunctions inner count false
      | .negation => negation inner
      | .primary => primary inner files

def whole (files : FileTree) (words : List String) : Except String Bool := do
  let (value, rest) ← (read files (4 * words.length + 4) .disjunction).run words
  match rest with
  | last :: _ :: _ => throw (if last.isEmpty then "unexpected operator" else last ++ ": unexpected operator")
  | _ => return value

/-- Three or four words are read by their number first. -/
def evaluate (files : FileTree) : Nat → List String → Except String Bool
  | 0, words => whole files words
  | fuel + 1, words => do
      match words with
      | [] => return false
      | [left, operator, right] =>
          if operator? operator = some .binary then
            return (← (binary files left operator right).run []).1
          else if left == "(" && right == ")" then whole files [operator]
          else if left == "!" then return !(← evaluate files fuel [operator, right])
          else whole files words
      | [first, second, third, fourth] =>
          if first == "(" && fourth == ")" then whole files [second, third]
          else if first == "!" then return !(← evaluate files fuel [second, third, fourth])
          else whole files words
      | _ => whole files words

end Condition

def conditionHolds (files : FileTree) (words : List String) : Except String Bool :=
  Condition.evaluate files 2 words

end StreamWidth.Shell
