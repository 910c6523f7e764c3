/-!
Values of TOML documents. A table remembers how it came to be, since that decides where more may be
added to it.
-/

namespace StreamWidth.Toml

inductive TableKind
  | header
  | implied
  | dotted
  | closed
  deriving DecidableEq

inductive Value
  | string (text : String)
  | integer (value : Int)
  | float
  | boolean (value : Bool)
  | dateTime (text : String)
  | array (items : List Value)
  /-- Tables under one repeated header, the latest last. -/
  | tables (items : List Value)
  | table (kind : TableKind) (entries : List (String × Value))

abbrev Entries :=
  List (String × Value)

def Entries.get? (entries : Entries) (key : String) : Option Value :=
  (List.find? (·.1 == key) entries).map (·.2)

def Entries.set (entries : Entries) (key : String) (value : Value) : Entries :=
  if (entries.get? key).isSome then
    List.map (fun entry => if entry.1 == key then (key, value) else entry) entries
  else List.append entries [(key, value)]

end StreamWidth.Toml
