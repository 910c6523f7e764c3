import StreamWidth.Shell.Builtins.Variables

/-!
Reading a line of input into variables.
-/

namespace StreamWidth.Shell

structure InputLine where
  glyphs : List Glyph
  taken : Nat
  complete : Bool

/-- The first line of an input. Unless it is raw, a backslash protects the character behind it and
joins lines. -/
def inputLine (raw : Bool) : List Char → InputLine
  | [] => ⟨[], 0, false⟩
  | '\n' :: _ => ⟨[], 1, true⟩
  | '\\' :: c :: rest =>
      if raw then
        let line := inputLine raw (c :: rest)
        ⟨.char '\\' .expanded :: line.glyphs, line.taken + 1, line.complete⟩
      else
        let line := inputLine raw rest
        let glyphs := if c == '\n' then line.glyphs else .char c .quoted :: line.glyphs
        ⟨glyphs, line.taken + 2, line.complete⟩
  | c :: rest =>
      let line := inputLine raw rest
      let glyphs := if c == '\x00' then line.glyphs else .char c .expanded :: line.glyphs
      ⟨glyphs, line.taken + 1, line.complete⟩
termination_by chars => chars.length

def Glyph.separates (separators : List Char) : Glyph → Bool
  | .char c .expanded => separators.contains c
  | _ => false

def Glyph.isBlankSeparator (separators : List Char) (glyph : Glyph) : Bool :=
  glyph.separates separators &&
    match glyph with
    | .char c _ => [' ', '\t', '\n'].contains c
    | _ => false

def afterSeparator (separators : List Char) (glyphs : List Glyph) : List Glyph :=
  let rest := glyphs.dropWhile (·.isBlankSeparator separators)
  match rest with
  | glyph :: more =>
      if glyph.separates separators then more.dropWhile (·.isBlankSeparator separators) else rest
  | [] => []

/-- The last variable takes all that is left, without blanks at its end. A separator at the very end
stays only if there are others before it. -/
def lastField (separators : List Char) (glyphs : List Glyph) : String :=
  let field := glyphs.takeWhile (!·.separates separators)
  if (afterSeparator separators (glyphs.drop field.length)).isEmpty then textOfGlyphs field
  else textOfGlyphs (glyphs.reverse.dropWhile (·.isBlankSeparator separators)).reverse

def readFields (separators : List Char) : Nat → List Glyph → List String
  | 0, _ => []
  | 1, glyphs => [lastField separators glyphs]
  | count + 2, glyphs =>
      let field := glyphs.takeWhile (!·.separates separators)
      textOfGlyphs field ::
        readFields separators (count + 1) (afterSeparator separators (glyphs.drop field.length))

def readingOptions : Nat → List String → Run (Bool × List String)
  | 0, arguments => return (false, arguments)
  | fuel + 1, arguments => do
      match arguments with
      | "-p" :: _ :: rest => readingOptions fuel rest
      | "--" :: rest => return (false, rest)
      | first :: rest =>
          match first.toList with
          | ['-', 'r'] => do return (true, (← readingOptions fuel rest).2)
          | '-' :: 'r' :: 'p' :: _ => do return (true, (← readingOptions fuel (rest.drop 1)).2)
          | '-' :: c :: _ => refuse ("Illegal option -" ++ String.singleton c)
          | _ => return (false, arguments)
      | [] => return (false, [])

def readVariables : Builtin := fun arguments => do
  let (raw, names) ← readingOptions (arguments.length + 1) arguments
  if names.isEmpty then refuse "arg count"
  let input := ((← unread 0).toOption.getD "").toList
  let line := inputLine raw input
  consume 0 line.taken
  let separators ← separators
  let start := line.glyphs.dropWhile (·.isBlankSeparator separators)
  for (name, value) in names.zip (readFields separators names.length start) do
    checkName name
    assign name value
  return if line.complete then 0 else 1

end StreamWidth.Shell
