import StreamWidth.Toml.Items

/-!
Whole documents: a sequence of headers and entries, each on lines of its own, that builds one table.
-/

namespace StreamWidth.Toml

inductive Statement
  | entry (path : List String) (value : Value)
  | header (path : List String)
  | repeatedHeader (path : List String)

def entryStatement (fuel : Nat) : Reader Statement := do
  let path ← key fuel
  Reader.char '='
  blanks
  let value ← item fuel 0
  lineRest
  return .entry path value

def headerStatement (fuel : Nat) : Reader Statement := do
  Reader.char '['
  if (← Reader.optional (Reader.char '[')).isSome then
    let path ← key fuel
    Reader.text "]]"
    lineRest
    return .repeatedHeader path
  else
    let path ← key fuel
    Reader.char ']'
    lineRest
    return .header path

def statements (length : Nat) : Nat → Reader (List Statement)
  | 0 => failure
  | fuel + 1 => do
      blanks
      match ← Reader.peek with
      | none => return []
      | some '#' => do
          comment
          lineEnd
          statements length fuel
      | some '\n' | some '\r' => do
          newline
          statements length fuel
      | some '[' => return (← headerStatement length) :: (← statements length fuel)
      | some _ => return (← entryStatement length) :: (← statements length fuel)

structure Assembly where
  root : Entries
  here : List String

def atHeader (root : Entries) (path : List String)
    (change : TableKind → Entries → Option (TableKind × Entries)) : Option Entries :=
  (modifyAt .implied openToHeaders change path .header root).map (·.2)

def underHeader (assembly : Assembly) (path : List String)
    (openNamed : String → TableKind → Entries → Option (TableKind × Entries)) : Option Assembly := do
  let name ← path.getLast?
  return ⟨← atHeader assembly.root path.dropLast (openNamed name), path⟩

def assemble (assembly : Assembly) : Statement → Option Assembly
  | .entry path value => do
      return { assembly with root := ← atHeader assembly.root assembly.here (insertAt path value) }
  | .header path => underHeader assembly path openTable
  | .repeatedHeader path => underHeader assembly path openRepeated

def byteOrderMark : Char :=
  '\uFEFF'

def withoutMark : List Char → List Char
  | c :: rest => if c = byteOrderMark then rest else c :: rest
  | [] => []

/-- The table that a document stands for. -/
def parse? (text : String) : Option Entries := do
  let chars := withoutMark text.toList
  let fuel := 2 * chars.length + 2
  let (list, _) ← (statements fuel (chars.length + 1)).run chars
  let assembly ← list.foldlM assemble ⟨[], []⟩
  return assembly.root

end StreamWidth.Toml
