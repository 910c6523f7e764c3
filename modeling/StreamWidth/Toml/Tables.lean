import StreamWidth.Toml.Value

/-!
Adding to tables. What a dotted key or a header may extend depends on how each table on its way was
made.
-/

namespace StreamWidth.Toml

/-- Changes the table at the end of a path. Tables that are not there yet are made with the kind
`made`; a table of a kind that is not `open` to the path refuses it. -/
def modifyAt (made : TableKind) (isOpen : TableKind → Bool)
    (change : TableKind → Entries → Option (TableKind × Entries)) :
    List String → TableKind → Entries → Option (TableKind × Entries)
  | [], kind, entries => change kind entries
  | name :: path, kind, entries => do
      let child ←
        match (entries.get? name).getD (.table made []) with
        | .table childKind childEntries =>
            if isOpen childKind then
              let (childKind, childEntries) ← modifyAt made isOpen change path childKind childEntries
              pure (.table childKind childEntries)
            else none
        | .tables items =>
            match items.getLast? with
            | some (.table lastKind lastEntries) => do
                let (lastKind, lastEntries) ← modifyAt made isOpen change path lastKind lastEntries
                pure (.tables (items.dropLast ++ [.table lastKind lastEntries]))
            | _ => none
        | _ => none
      return (kind, entries.set name child)

def openToDots (kind : TableKind) : Bool :=
  kind == .implied || kind == .dotted

def insertEntry (dotted : Bool) (name : String) (value : Value) (kind : TableKind)
    (entries : Entries) : Option (TableKind × Entries) :=
  if (kind == .dotted) != dotted || (entries.get? name).isSome then none
  else some (kind, entries.set name value)

def insertAt (path : List String) (value : Value) (kind : TableKind) (entries : Entries) :
    Option (TableKind × Entries) :=
  match path.getLast? with
  | none => none
  | some name =>
      modifyAt .dotted openToDots (insertEntry (2 ≤ path.length) name value) path.dropLast kind
        entries

def openToHeaders (kind : TableKind) : Bool :=
  kind != .closed

/-- Opens the table of a header. It may have been passed through, but not defined. -/
def openTable (name : String) (kind : TableKind) (entries : Entries) :
    Option (TableKind × Entries) :=
  match entries.get? name with
  | none => some (kind, entries.set name (.table .header []))
  | some (.table .implied children) => some (kind, entries.set name (.table .header children))
  | some _ => none

def openRepeated (name : String) (kind : TableKind) (entries : Entries) :
    Option (TableKind × Entries) :=
  match entries.get? name with
  | none => some (kind, entries.set name (.tables [.table .header []]))
  | some (.tables items) =>
      some (kind, entries.set name (.tables (items ++ [.table .header []])))
  | some _ => none

end StreamWidth.Toml
