import StreamWidth.Files.Directory
import StreamWidth.Shell.Bytes
import StreamWidth.Shell.Glob

/-!
From expanded words to fields: where words are split, and which files patterns stand for.
-/

namespace StreamWidth.Shell

/-- Where a character of an expanded word comes from. -/
inductive Origin
  | written
  | expanded
  | quoted
  deriving DecidableEq

inductive Glyph
  | char (c : Char) (origin : Origin)
  | nothing
  | cut

def Origin.glyphs (origin : Origin) (text : String) : List Glyph :=
  if text.isEmpty && origin = .quoted then [.nothing]
  else text.toList.map fun c => .char c origin

def Glyph.asExpanded : Glyph → Glyph
  | char c .written => .char c .expanded
  | glyph => glyph

def joinGlyphs : List (List Glyph) → List Glyph
  | [] => []
  | [glyphs] => glyphs
  | glyphs :: rest => glyphs ++ .cut :: joinGlyphs rest

def marks (glyphs : List Glyph) : List Mark :=
  glyphs.filterMap fun glyph =>
    match glyph with
    | .char c origin => some ⟨c, origin = .quoted⟩
    | .nothing => none
    | .cut => some ⟨' ', true⟩

def textOfMarks (marks : List Mark) : String :=
  String.ofList (marks.map (·.char))

def textOfGlyphs (glyphs : List Glyph) : String :=
  textOfMarks (marks glyphs)

/-- Fields while they are split. -/
structure Splitting where
  current : Option (List Mark)
  afterBlank : Bool
  fields : List (List Mark)

namespace Splitting

def add (splitting : Splitting) (mark : Mark) : Splitting :=
  { splitting with current := some (mark :: splitting.current.getD []), afterBlank := false }

def finish (splitting : Splitting) : Splitting :=
  match splitting.current with
  | some field =>
      { splitting with current := none, fields := field.reverse :: splitting.fields }
  | none => splitting

def separate (splitting : Splitting) (c : Char) : Splitting :=
  let isBlank := [' ', '\t', '\n'].contains c
  match splitting.current with
  | some _ => { splitting.finish with afterBlank := isBlank }
  | none =>
      if isBlank then splitting
      else if splitting.afterBlank then { splitting with afterBlank := false }
      else { splitting with fields := [] :: splitting.fields }

def step (separators : List Char) (splitting : Splitting) : Glyph → Splitting
  | .char c .expanded =>
      if separators.contains c then splitting.separate c else splitting.add ⟨c, false⟩
  | .char c origin => splitting.add ⟨c, origin = .quoted⟩
  | .nothing => { splitting with current := some (splitting.current.getD []), afterBlank := false }
  | .cut => { splitting.finish with afterBlank := true }

end Splitting

def splitFields (separators : List Char) (glyphs : List Glyph) : List (List Mark) :=
  ((glyphs.foldl (Splitting.step separators) ⟨none, false, []⟩).finish).fields.reverse

/-! Patterns that stand for files. -/

def splitMarks : List Mark → List (List Mark)
  | [] => [[]]
  | mark :: rest =>
      match splitMarks rest with
      | [] => [[mark]]
      | first :: others =>
          if mark.char = '/' then [] :: first :: others else (mark :: first) :: others

def nameMatches (pattern : List Mark) (name : String) : Bool :=
  let hidden := name.toList.head? == some '.'
  let wanted := (pattern.head?.map (·.char)) == some '.'
  (!hidden || wanted) && globMatches pattern name.toList

def namesIn (files : FileTree) (directory : String) : List String :=
  let path := if directory.isEmpty then "." else decode directory
  match files.locate path with
  | .ok location => [".", ".."] ++ (files.children location).map encode
  | .error _ => []

def extendMatches (files : FileTree) (pattern : List Mark) (isLast : Bool) (start : String) :
    List String :=
  let close (name : String) : String := start ++ name ++ (if isLast then "" else "/")
  if hasGlob pattern then
    ((namesIn files start).filter (nameMatches pattern)).map close
  else [close (textOfMarks pattern)]

def matchNames (files : FileTree) : List (List Mark) → List String → List String
  | [], found => found
  | [last], found => found.flatMap (extendMatches files last true)
  | first :: rest, found => matchNames files rest (found.flatMap (extendMatches files first false))

/-- The files that a pattern stands for. -/
def matchingFiles (files : FileTree) (pattern : List Mark) : List String :=
  (matchNames files (splitMarks pattern) [""]).filter fun path => files.pathExists (decode path)

/-- A pattern without files stands for itself. -/
def fieldTexts (files : FileTree) (findFiles : Bool) (field : List Mark) : List String :=
  if findFiles && hasGlob field then
    match matchingFiles files field with
    | [] => [textOfMarks field]
    | found => found
  else [textOfMarks field]

end StreamWidth.Shell
