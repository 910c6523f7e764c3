/-!
Patterns of the shell: any text, any character, or one of a set.
-/

namespace StreamWidth.Shell

structure Mark where
  char : Char
  literal : Bool
  deriving DecidableEq

inductive SetMember
  | range (low high : Char)
  | kind (name : String)

inductive GlobItem
  | char (c : Char)
  | any
  | star
  | oneOf (negated : Bool) (members : List SetMember)

def isOfKind (name : String) (c : Char) : Bool :=
  match name with
  | "alpha" => c.isAlpha
  | "digit" => c.isDigit
  | "alnum" => c.isAlphanum
  | "upper" => c.isUpper
  | "lower" => c.isLower
  | "space" => [' ', '\t', '\n', '\r', '\x0b', '\x0c'].contains c
  | "blank" => c == ' ' || c == '\t'
  | "xdigit" => c.isDigit || ('a' ≤ c && c ≤ 'f') || ('A' ≤ c && c ≤ 'F')
  | "cntrl" => c < ' ' || c == '\x7f'
  | "print" => ' ' ≤ c && c < '\x7f'
  | "graph" => ' ' < c && c < '\x7f'
  | "punct" => ' ' < c && c < '\x7f' && !c.isAlphanum
  | _ => false

def SetMember.accepts (c : Char) : SetMember → Bool
  | range low high => low ≤ c && c ≤ high
  | kind name => isOfKind name c

namespace Glob

def kindName : List Mark → Option (String × List Mark)
  | ⟨':', false⟩ :: ⟨']', false⟩ :: rest => some ("", rest)
  | ⟨c, _⟩ :: rest => (kindName rest).map fun (name, rest) => (String.singleton c ++ name, rest)
  | [] => none

def members : Nat → Bool → List Mark → Option (List SetMember × List Mark)
  | 0, _, _ => none
  | fuel + 1, isFirst, marks =>
      let add (member : SetMember) (rest : List Mark) : Option (List SetMember × List Mark) :=
        (members fuel false rest).map fun (others, rest) => (member :: others, rest)
      match marks with
      | [] => none
      | ⟨'[', false⟩ :: ⟨':', false⟩ :: rest =>
          match kindName rest with
          | some (name, rest) => add (.kind name) rest
          | none => add (.range '[' '[') (⟨':', false⟩ :: rest)
      | low :: rest =>
          if low = ⟨']', false⟩ && !isFirst then some ([], rest)
          else
            match rest with
            | ⟨'-', false⟩ :: high :: after =>
                if high = ⟨']', false⟩ then add (.range low.char low.char) (⟨'-', true⟩ :: high :: after)
                else add (.range low.char high.char) after
            | _ => add (.range low.char low.char) rest

def set? : List Mark → Option (GlobItem × List Mark)
  | ⟨'!', false⟩ :: rest =>
      (members (rest.length + 1) true rest).map fun (found, rest) => (.oneOf true found, rest)
  | rest =>
      (members (rest.length + 1) true rest).map fun (found, rest) => (.oneOf false found, rest)

/-- A bracket without its partner stands for itself. -/
def ofMarks : Nat → List Mark → List GlobItem
  | 0, _ => []
  | _, [] => []
  | fuel + 1, ⟨'*', false⟩ :: rest => .star :: ofMarks fuel rest
  | fuel + 1, ⟨'?', false⟩ :: rest => .any :: ofMarks fuel rest
  | fuel + 1, ⟨'[', false⟩ :: rest =>
      match set? rest with
      | some (item, rest) => item :: ofMarks fuel rest
      | none => .char '[' :: ofMarks fuel rest
  | fuel + 1, mark :: rest => .char mark.char :: ofMarks fuel rest

def accepts : GlobItem → Char → Bool
  | .char expected, c => c == expected
  | .any, _ => true
  | .oneOf negated found, c => (found.any (SetMember.accepts c)) != negated
  | .star, _ => false

def matchItems : List GlobItem → List Char → Bool
  | [], text => text.isEmpty
  | .star :: items, [] => matchItems items []
  | .star :: items, c :: text => matchItems items (c :: text) || matchItems (.star :: items) text
  | item :: items, c :: text => accepts item c && matchItems items text
  | _ :: _, [] => false
termination_by items text => (items.length, text.length)

end Glob

/-- Whether a pattern covers the whole text. -/
def globMatches (pattern : List Mark) (text : List Char) : Bool :=
  Glob.matchItems (Glob.ofMarks (pattern.length + 1) pattern) text

def hasGlob (pattern : List Mark) : Bool :=
  pattern.any fun mark => !mark.literal && ['*', '?', '['].contains mark.char

def dropFront (longest : Bool) (pattern : List Mark) (text : List Char) : List Char :=
  let counts := List.range (text.length + 1)
  let tried := if longest then counts.reverse else counts
  match tried.find? fun count => globMatches pattern (text.take count) with
  | some count => text.drop count
  | none => text

def dropBack (longest : Bool) (pattern : List Mark) (text : List Char) : List Char :=
  let counts := List.range (text.length + 1)
  let tried := if longest then counts else counts.reverse
  match tried.find? fun count => globMatches pattern (text.drop count) with
  | some count => text.take count
  | none => text

end StreamWidth.Shell
