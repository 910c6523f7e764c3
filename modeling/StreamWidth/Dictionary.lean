/-!
Finite maps from names. Entries are kept in the order of their names, so two dictionaries with the
same content are equal.
-/

namespace StreamWidth

structure Dictionary (α : Type) where
  entries : List (String × α)
  ordered : entries.Pairwise fun left right => left.1 < right.1

namespace Dictionary

variable {α : Type}

def empty : Dictionary α :=
  ⟨[], .nil⟩

def lookup (key : String) : List (String × α) → Option α
  | [] => none
  | (name, value) :: rest => if name = key then some value else lookup key rest

def get? (table : Dictionary α) (key : String) : Option α :=
  lookup key table.entries

def contains (table : Dictionary α) (key : String) : Bool :=
  (table.get? key).isSome

def keys (table : Dictionary α) : List String :=
  table.entries.map (·.1)

def size (table : Dictionary α) : Nat :=
  table.entries.length

def insertEntry (key : String) (value : α) : List (String × α) → List (String × α)
  | [] => [(key, value)]
  | (name, old) :: rest =>
      if key < name then (key, value) :: (name, old) :: rest
      else if key = name then (key, value) :: rest
      else (name, old) :: insertEntry key value rest

theorem mem_insertEntry {key : String} {value : α} {entry : String × α}
    {entries : List (String × α)} (member : entry ∈ insertEntry key value entries) :
    entry = (key, value) ∨ entry ∈ entries := by
  induction entries with
  | nil => simpa [insertEntry] using member
  | cons first rest ih =>
      obtain ⟨name, old⟩ := first
      simp only [insertEntry] at member
      split at member
      · simpa using member
      · split at member
        · rcases List.mem_cons.1 member with same | later
          · exact Or.inl same
          · exact Or.inr (List.mem_cons_of_mem _ later)
        · rcases List.mem_cons.1 member with same | later
          · exact Or.inr (same ▸ List.mem_cons_self)
          · exact (ih later).imp id (List.mem_cons_of_mem _)

theorem lt_of_not_lt_of_ne {left right : String} (notLess : ¬left < right) (different : left ≠ right) :
    right < left :=
  Decidable.byContradiction fun notGreater =>
    different (String.le_antisymm (String.not_lt.1 notGreater) (String.not_lt.1 notLess))

theorem insertEntry_ordered (key : String) (value : α) (entries : List (String × α))
    (ordered : entries.Pairwise fun left right => left.1 < right.1) :
    (insertEntry key value entries).Pairwise fun left right => left.1 < right.1 := by
  induction entries with
  | nil => simp [insertEntry]
  | cons first rest ih =>
      obtain ⟨name, old⟩ := first
      have later := (List.pairwise_cons.1 ordered).1
      have tail := (List.pairwise_cons.1 ordered).2
      simp only [insertEntry]
      split
      · rename_i less
        refine List.pairwise_cons.2 ⟨fun entry member => ?_, ordered⟩
        rcases List.mem_cons.1 member with same | further
        · exact same ▸ less
        · exact String.lt_trans less (later entry further)
      · split
        · rename_i same
          exact List.pairwise_cons.2 ⟨fun entry member => same ▸ later entry member, tail⟩
        · rename_i notLess different
          refine List.pairwise_cons.2 ⟨fun entry member => ?_, ih tail⟩
          rcases mem_insertEntry member with same | further
          · exact same ▸ lt_of_not_lt_of_ne notLess different
          · exact later entry further

def insert (table : Dictionary α) (key : String) (value : α) : Dictionary α :=
  ⟨insertEntry key value table.entries, insertEntry_ordered key value _ table.ordered⟩

def insert? (table : Dictionary α) (key : String) (value : Option α) : Dictionary α :=
  match value with
  | none => table
  | some value => table.insert key value

def erase (table : Dictionary α) (key : String) : Dictionary α :=
  ⟨table.entries.filter fun entry => entry.1 != key, table.ordered.filter _⟩

def ofList (entries : List (String × α)) : Dictionary α :=
  entries.foldl (fun table entry => table.insert entry.1 entry.2) empty

end Dictionary

instance {α : Type} [DecidableEq α] : DecidableEq (Dictionary α) := fun left right =>
  if same : left.entries = right.entries then
    .isTrue (by cases left; cases right; cases same; rfl)
  else .isFalse fun equal => same (equal ▸ rfl)

end StreamWidth
