import StreamWidth.Text.Digits

/-!
Backslashes in texts that are printed.
-/

namespace StreamWidth.Shell

def isOctal (c : Char) : Bool :=
  '0' ≤ c && c ≤ '7'

def namedEscape? : Char → Option Char
  | 'a' => some '\x07'
  | 'b' => some '\x08'
  | 'e' => some '\x1b'
  | 'f' => some '\x0c'
  | 'n' => some '\n'
  | 'r' => some '\r'
  | 't' => some '\t'
  | 'v' => some '\x0b'
  | '\\' => some '\\'
  | _ => none

def octalEscape? (chars : List Char) : Option (Char × List Char) :=
  let digits := (chars.take 3).takeWhile isOctal
  (Text.number? 8 digits).map fun value => (Char.ofNat (value % 256), chars.drop digits.length)

def escaped (chars : List Char) : Char × List Char :=
  match octalEscape? chars with
  | some found => found
  | none =>
      match chars with
      | c :: rest =>
          match namedEscape? c with
          | some meant => (meant, rest)
          | none => ('\\', chars)
      | [] => ('\\', [])

/-- Text with its escapes resolved, and whether it asks that nothing follows it. Octal digits may
have a zero in front. The fuel is the length of the text. -/
def resolveEscapes : Nat → List Char → List Char × Bool
  | 0, _ => ([], false)
  | _, [] => ([], false)
  | _, '\\' :: 'c' :: _ => ([], true)
  | fuel + 1, '\\' :: rest =>
      let digits :=
        match rest with
        | '0' :: c :: more => if isOctal c then c :: more else rest
        | _ => rest
      let (c, rest) := escaped digits
      let (more, ended) := resolveEscapes fuel rest
      (c :: more, ended)
  | fuel + 1, c :: rest =>
      let (more, ended) := resolveEscapes fuel rest
      (c :: more, ended)

def resolve (text : String) : String × Bool :=
  let (chars, ended) := resolveEscapes (text.length + 1) text.toList
  (String.ofList chars, ended)

def echoText (texts : List String) : String :=
  let (texts, newline) :=
    match texts with
    | "-n" :: rest => (rest, "")
    | _ => (texts, "\n")
  let (text, ended) := resolve (" ".intercalate texts)
  if ended then text else text ++ newline

end StreamWidth.Shell
