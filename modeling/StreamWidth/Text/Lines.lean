/-!
Text in pieces, as lines among others. A line ends before a newline; what follows the last newline
is a line too.
-/

namespace StreamWidth.Text

def prependToFirst (c : Char) : List (List Char) → List (List Char)
  | [] => [[c]]
  | piece :: rest => (c :: piece) :: rest

def pieces (separator : Char) : List Char → List (List Char)
  | [] => [[]]
  | c :: rest =>
      if c = separator then [] :: pieces separator rest
      else prependToFirst c (pieces separator rest)

def lines (text : List Char) : List (List Char) :=
  pieces '\n' text

def unlines (texts : List String) : String :=
  String.ofList (texts.flatMap fun text => text.toList ++ ['\n'])

end StreamWidth.Text
