import StreamWidth.Text.Lines

/-!
Paths as text. A path that starts at the root replaces whatever it is joined to.
-/

namespace StreamWidth.Path

def isAbsolute (path : String) : Bool :=
  path.toList.head? == some '/'

def endsInSlash (path : String) : Bool :=
  path.toList.getLast? == some '/'

def join (directory path : String) : String :=
  if isAbsolute path || directory == "" then path
  else if endsInSlash directory then directory ++ path
  else directory ++ "/" ++ path

def names (path : String) : List String :=
  (Text.pieces '/' path.toList).map String.ofList

def joinAll (directory : String) (paths : List String) : String :=
  paths.foldl join directory

def artifact (root name : String) : String :=
  joinAll root ["project_" ++ name, "sol1", "impl", "verilog", name ++ "_" ++ name ++ ".v"]

end StreamWidth.Path
