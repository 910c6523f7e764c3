import StreamWidth.Toml.Value

/-!
Reading records out of values. A record is a table with named fields, or a list of its fields in
order; fields beyond those asked for are left alone.
-/

namespace StreamWidth.Toml

inductive Record
  | named (entries : Entries)
  | listed (items : List Value)

def Value.record? : Value → Option Record
  | .table _ entries => some (.named entries)
  | .array items | .tables items => some (.listed items)
  | _ => none

def Record.field? (record : Record) (index : Nat) (name : String) : Option Value :=
  match record with
  | .named entries => entries.get? name
  | .listed items => items[index]?

def Record.required {α : Type} (record : Record) (index : Nat) (name : String)
    (read : Value → Option α) : Option α := do
  read (← record.field? index name)

/-- A field that may be missing, but not have the wrong form. -/
def Record.optional {α : Type} (record : Record) (index : Nat) (name : String) (missing : α)
    (read : Value → Option α) : Option α :=
  match record.field? index name with
  | none => some missing
  | some value => read value

def Value.string? : Value → Option String
  | .string text => some text
  | _ => none

def Value.integer? : Value → Option Int
  | .integer value => some value
  | _ => none

def Value.boolean? : Value → Option Bool
  | .boolean value => some value
  | _ => none

def Value.items? : Value → Option (List Value)
  | .array items | .tables items => some items
  | _ => none

def Value.strings? (value : Value) : Option (List String) := do
  (← value.items?).mapM Value.string?

def Value.integers? (value : Value) : Option (List Int) := do
  (← value.items?).mapM Value.integer?

end StreamWidth.Toml
