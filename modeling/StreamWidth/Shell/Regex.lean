import StreamWidth.Shell.Glob

/-!
Regular expressions and their longest matches. A match is found as a set of ends that can be
reached, so that expressions with many ways to match cost no more than their text is long.
-/

namespace StreamWidth.Shell

/-- Conditions on a place in a text. -/
inductive Anchor
  | start
  | finish
  | textStart
  | textEnd
  | wordStart
  | wordEnd
  | wordEdge
  | inside

inductive Regex
  | empty
  | char (c : Char)
  | any
  | oneOf (negated : Bool) (members : List SetMember)
  | anchor (kind : Anchor)
  | sequence (first second : Regex)
  | either (first second : Regex)
  | repeated (inner : Regex) (least : Nat) (most : Option Nat)
  | group (number : Nat) (inner : Regex)
  | again (number : Nat)

structure Reached where
  place : Nat
  groups : List (Nat × Nat × Nat)
  deriving DecidableEq

namespace Regex

/-- Whether a group's text is asked for again, so that ways to one place may differ. -/
def remembers : Regex → Bool
  | sequence first second | either first second => first.remembers || second.remembers
  | repeated inner _ _ | group _ inner => inner.remembers
  | again _ => true
  | _ => false

def groupCount : Regex → Nat
  | sequence first second | either first second => max first.groupCount second.groupCount
  | repeated inner _ _ => inner.groupCount
  | group number inner => max number inner.groupCount
  | _ => 0

structure Subject where
  text : Array Char
  ignoreCase : Bool
  exact : Bool
  linewise : Bool

def isWordChar (c : Char) : Bool :=
  c.isAlphanum || c == '_'

namespace Subject

def isWordAt (subject : Subject) (place : Nat) : Bool :=
  (subject.text[place]?).any isWordChar

def isWordBefore (subject : Subject) (place : Nat) : Bool :=
  place != 0 && subject.isWordAt (place - 1)

def sameChar (subject : Subject) (left right : Char) : Bool :=
  left == right || (subject.ignoreCase && left.toLower == right.toLower)

def accepts (subject : Subject) (members : List SetMember) (c : Char) : Bool :=
  members.any fun member =>
    member.accepts c || (subject.ignoreCase && (member.accepts c.toLower || member.accepts c.toUpper))

def isInLine (subject : Subject) (c : Char) : Bool :=
  !(subject.linewise && c == '\n')

def holds (subject : Subject) (place : Nat) : Anchor → Bool
  | .start =>
      place == 0 || (subject.linewise && subject.text[place - 1]? == some '\n')
  | .finish =>
      place == subject.text.size || (subject.linewise && subject.text[place]? == some '\n')
  | .textStart => place == 0
  | .textEnd => place == subject.text.size
  | .wordStart => !subject.isWordBefore place && subject.isWordAt place
  | .wordEnd => subject.isWordBefore place && !subject.isWordAt place
  | .wordEdge => subject.isWordBefore place != subject.isWordAt place
  | .inside => subject.isWordBefore place == subject.isWordAt place

/-- One way to each place, the preferred one first. -/
def distinct (subject : Subject) : List Reached → List Reached
  | [] => []
  | first :: rest =>
      let others := subject.distinct rest
      first :: others.filter fun other =>
        if subject.exact then other != first else other.place != first.place

def advance (subject : Subject) (reached : Reached) (accept : Char → Bool) : List Reached :=
  match subject.text[reached.place]? with
  | some c => if accept c then [{ reached with place := reached.place + 1 }] else []
  | none => []

def rounds (subject : Subject) (step : Reached → List Reached) (least : Nat) (most : Option Nat) :
    Nat → Nat → List Reached → List Reached → List Reached
  | 0, _, _, _ => []
  | fuel + 1, count, seen, level =>
      let enough := if least ≤ count then level else []
      if most.any (· ≤ count) then enough
      else
        let next := subject.distinct (level.flatMap step)
        let isNew (reached : Reached) : Bool :=
          count < least ||
            !seen.any fun other =>
              if subject.exact then other == reached else other.place == reached.place
        let next := next.filter isNew
        if next.isEmpty then enough
        else subject.rounds step least most fuel (count + 1) (next ++ seen) next ++ enough

def textOf (subject : Subject) (groups : List (Nat × Nat × Nat)) (number : Nat) :
    Option (List Char) := do
  let (_, first, last) ← groups.find? (·.1 == number)
  return (subject.text.extract first last).toList

def follow (subject : Subject) (reached : Reached) (text : List Char) : List Reached :=
  let here := (subject.text.extract reached.place (reached.place + text.length)).toList
  if here.length = text.length && (here.zip text).all fun (a, b) => subject.sameChar a b then
    [{ reached with place := reached.place + text.length }]
  else []

end Subject

/-- The places that a match from here can end at, the preferred ones first. -/
def ends (subject : Subject) : Regex → Reached → List Reached
  | empty, reached => [reached]
  | char c, reached => subject.advance reached (subject.sameChar c)
  | any, reached => subject.advance reached subject.isInLine
  | oneOf negated members, reached =>
      subject.advance reached fun c =>
        subject.accepts members c != negated && (!negated || subject.isInLine c)
  | anchor kind, reached => if subject.holds reached.place kind then [reached] else []
  | sequence first second, reached =>
      subject.distinct ((first.ends subject reached).flatMap (second.ends subject))
  | either first second, reached =>
      subject.distinct (first.ends subject reached ++ second.ends subject reached)
  | repeated inner least most, reached =>
      subject.rounds (inner.ends subject) least most (subject.text.size + least + 2) 0 [reached]
        [reached]
  | group number inner, reached =>
      (inner.ends subject reached).map fun found =>
        let others := found.groups.filter (·.1 != number)
        { found with groups := (number, reached.place, found.place) :: others }
  | again number, reached =>
      match subject.textOf reached.groups number with
      | some text => subject.follow reached text
      | none => []

end Regex

structure RegexMatch where
  first : Nat
  last : Nat
  groups : List (Nat × Nat × Nat)

def longest : List Reached → Option Reached
  | [] => none
  | reached :: rest =>
      some (rest.foldl (fun best other => if best.place < other.place then other else best) reached)

namespace Regex

def matchAt? (regex : Regex) (subject : Subject) (place : Nat) : Option RegexMatch :=
  (longest (regex.ends subject ⟨place, []⟩)).map fun reached => ⟨place, reached.place, reached.groups⟩

/-- The first of the longest matches that start at a place or behind it. -/
def findFrom (regex : Regex) (subject : Subject) (place : Nat) : Option RegexMatch :=
  (List.range (subject.text.size + 1 - place)).findSome? fun offset =>
    regex.matchAt? subject (place + offset)

def subject (regex : Regex) (ignoreCase : Bool) (text : List Char) : Subject :=
  ⟨text.toArray, ignoreCase, regex.remembers, false⟩

def Subject.inLines (subject : Subject) (linewise : Bool) : Subject :=
  { subject with linewise }

end Regex

end StreamWidth.Shell
