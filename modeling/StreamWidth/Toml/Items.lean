import StreamWidth.Toml.Numbers
import StreamWidth.Toml.Strings
import StreamWidth.Toml.Tables

/-!
Values as they stand in a document: scalars, arrays over many lines, and tables between braces on
one line.
-/

namespace StreamWidth.Toml

def numeric : Reader Value :=
  (do
    return .dateTime (← dateTime)) <|>
  (do
    float
    return .float) <|>
  (return .integer (← integer))

def word (text : String) (value : Value) : Reader Value := do
  Reader.text text
  return value

def scalar (fuel : Nat) : Reader Value := do
  match ← Reader.peek with
  | some '"' => return .string (← stringWith '"' true fuel)
  | some '\'' => return .string (← stringWith '\'' false fuel)
  | some 't' => word "true" (.boolean true)
  | some 'f' => word "false" (.boolean false)
  | some 'i' => word "inf" .float
  | some 'n' => word "nan" .float
  | _ => numeric

def closedTable (pairs : List (List String × Value)) : Option Value := do
  let (_, entries) ← pairs.foldlM
    (fun (kind, entries) (path, value) => insertAt path value kind entries)
    (TableKind.closed, ([] : Entries))
  return .table .closed entries

mutual

/-- A value at some depth of nesting; the fuel is the length of the document. -/
def item : Nat → Nat → Reader Value
  | 0, _ => failure
  | fuel + 1, depth => do
      match ← Reader.peek with
      | some '[' => do
          Reader.char '['
          if depth + 1 < depthLimit then return .array (← arrayItems fuel (depth + 1))
          else failure
      | some '\x7b' => do
          Reader.char '\x7b'
          if depth + 1 < depthLimit then inlineTable fuel (depth + 1) else failure
      | _ => scalar fuel

def arrayItems : Nat → Nat → Reader (List Value)
  | 0, _ => failure
  | fuel + 1, depth => do
      gap fuel
      if (← Reader.optional (Reader.char ']')).isSome then return []
      let first ← item fuel depth
      gap fuel
      if (← Reader.optional (Reader.char ',')).isSome then
        return first :: (← arrayItems fuel depth)
      else do
        Reader.char ']'
        return [first]

def inlineTable : Nat → Nat → Reader Value
  | 0, _ => failure
  | fuel + 1, depth => do
      blanks
      let pairs ←
        if (← Reader.peek) == some '\x7d' then do
          Reader.char '\x7d'
          pure []
        else inlinePairs fuel depth
      match closedTable pairs with
      | some table => return table
      | none => failure

def inlinePairs : Nat → Nat → Reader (List (List String × Value))
  | 0, _ => failure
  | fuel + 1, depth => do
      let path ← key fuel
      Reader.char '='
      blanks
      let value ← item fuel depth
      blanks
      if (← Reader.optional (Reader.char ',')).isSome then
        return (path, value) :: (← inlinePairs fuel depth)
      else do
        Reader.char '\x7d'
        return [(path, value)]

end

end StreamWidth.Toml
