import StreamWidth.Dictionary

/-!
What dictionaries answer after a change, and that the answers determine a dictionary.
-/

namespace StreamWidth.Dictionary

variable {α : Type}

theorem lookup_insertEntry (key other : String) (value : α) (entries : List (String × α)) :
    lookup other (insertEntry key value entries) =
      if key = other then some value else lookup other entries := by
  induction entries with
  | nil => simp [insertEntry, lookup]
  | cons first rest ih =>
      obtain ⟨name, old⟩ := first
      simp only [insertEntry]
      split
      · simp [lookup]
      · split
        · rename_i same
          subst same
          by_cases found : key = other <;> simp [lookup, found]
        · rename_i different
          by_cases found : name = other
          · subst found
            simp [lookup, different]
          · simp [lookup, found, ih]

theorem get?_insert (table : Dictionary α) (key other : String) (value : α) :
    (table.insert key value).get? other = if key = other then some value else table.get? other :=
  lookup_insertEntry key other value table.entries

theorem get?_insert_self (table : Dictionary α) (key : String) (value : α) :
    (table.insert key value).get? key = some value := by
  rw [get?_insert, if_pos rfl]

theorem get?_insert? (table : Dictionary α) (key other : String) (value : Option α) :
    (table.insert? key value).get? other =
      (if key = other then value else none).or (table.get? other) := by
  cases value with
  | none => simp [insert?]
  | some value =>
      rw [insert?, get?_insert]
      split <;> rfl

theorem get?_empty (key : String) : (empty : Dictionary α).get? key = none :=
  rfl

theorem lookup_append (key : String) (front back : List (String × α)) :
    lookup key (front ++ back) = (lookup key front).or (lookup key back) := by
  induction front with
  | nil => rfl
  | cons first rest ih =>
      by_cases found : first.1 = key <;> simp [lookup, found, ih]

theorem get?_foldl_insert (key : String) (entries : List (String × α)) : ∀ table : Dictionary α,
    (entries.foldl (fun table entry => table.insert entry.1 entry.2) table).get? key =
      (lookup key entries.reverse).or (table.get? key) := by
  induction entries with
  | nil => exact fun _ => rfl
  | cons first rest ih =>
      intro table
      rw [List.foldl_cons, ih, get?_insert, List.reverse_cons, lookup_append, Option.or_assoc]
      by_cases found : first.1 = key <;> simp [lookup, found]

theorem get?_ofList (entries : List (String × α)) (key : String) :
    (ofList entries).get? key = lookup key entries.reverse := by
  rw [ofList, get?_foldl_insert, get?_empty, Option.or_none]

theorem lookup_filter (key other : String) (entries : List (String × α)) :
    lookup other (entries.filter fun entry => entry.1 != key) =
      if key = other then none else lookup other entries := by
  induction entries with
  | nil => simp [lookup]
  | cons first rest ih =>
      obtain ⟨name, old⟩ := first
      by_cases removed : name = key
      · subst removed
        rw [List.filter_cons_of_neg (by simp), ih]
        by_cases found : name = other <;> simp [lookup, found]
      · by_cases found : name = other
        · subst found
          simp [lookup, removed, Ne.symm removed]
        · simp [lookup, removed, ih, found]

theorem get?_erase (table : Dictionary α) (key other : String) :
    (table.erase key).get? other = if key = other then none else table.get? other :=
  lookup_filter key other table.entries

theorem lookup_of_lt (key : String) (entries : List (String × α))
    (greater : ∀ entry ∈ entries, key < entry.1) : lookup key entries = none := by
  induction entries with
  | nil => rfl
  | cons first rest ih =>
      have different : first.1 ≠ key := fun same =>
        String.lt_irrefl key (same ▸ greater first List.mem_cons_self)
      simp [lookup, different, ih fun entry member => greater entry (List.mem_cons_of_mem _ member)]

theorem lookup_of_lt_first {key : String} {first : String × α} {rest : List (String × α)}
    (ordered : (first :: rest).Pairwise fun left right => left.1 < right.1)
    (less : key < first.1) : lookup key (first :: rest) = none := by
  apply lookup_of_lt
  intro entry member
  rcases List.mem_cons.1 member with equal | later
  · exact equal ▸ less
  · exact String.lt_trans less ((List.pairwise_cons.1 ordered).1 entry later)

theorem first_not_lt {first other : String × α} {rest others : List (String × α)}
    (ordered : (other :: others).Pairwise fun left right => left.1 < right.1)
    (same : ∀ key, lookup key (first :: rest) = lookup key (other :: others)) :
    ¬first.1 < other.1 := by
  intro less
  have found := same first.1
  rw [lookup_of_lt_first ordered less] at found
  simp [lookup] at found

theorem lookup_rest {first other : String × α} {rest others : List (String × α)}
    (leftOrdered : (first :: rest).Pairwise fun left right => left.1 < right.1)
    (rightOrdered : (other :: others).Pairwise fun left right => left.1 < right.1)
    (sameName : first.1 = other.1)
    (same : ∀ key, lookup key (first :: rest) = lookup key (other :: others)) (key : String) :
    lookup key rest = lookup key others := by
  by_cases found : first.1 = key
  · subst found
    rw [lookup_of_lt _ rest (List.pairwise_cons.1 leftOrdered).1,
      lookup_of_lt _ others (sameName ▸ (List.pairwise_cons.1 rightOrdered).1)]
  · have later := same key
    rwa [lookup, if_neg found, lookup, if_neg (sameName ▸ found)] at later

theorem entries_ext (left right : List (String × α))
    (leftOrdered : left.Pairwise fun first second => first.1 < second.1)
    (rightOrdered : right.Pairwise fun first second => first.1 < second.1)
    (same : ∀ key, lookup key left = lookup key right) : left = right := by
  induction left generalizing right with
  | nil =>
      cases right with
      | nil => rfl
      | cons first rest =>
          have := same first.1
          simp [lookup] at this
  | cons first rest ih =>
      cases right with
      | nil =>
          have := same first.1
          simp [lookup] at this
      | cons other others =>
          have sameName : first.1 = other.1 :=
            String.le_antisymm
              (String.not_lt.1 (first_not_lt leftOrdered fun key => (same key).symm))
              (String.not_lt.1 (first_not_lt rightOrdered same))
          have sameValue : first.2 = other.2 := by
            have := same first.1
            simpa [lookup, sameName] using this
          have sameRest : rest = others :=
            ih others (List.pairwise_cons.1 leftOrdered).2 (List.pairwise_cons.1 rightOrdered).2
              (lookup_rest leftOrdered rightOrdered sameName same)
          rw [sameRest, Prod.ext sameName sameValue]

theorem isSome_lookup_of_mem {key : String} {entries : List (String × α)}
    (member : key ∈ entries.map (·.1)) : (lookup key entries).isSome = true := by
  induction entries with
  | nil => simp at member
  | cons first rest ih =>
      by_cases found : first.1 = key
      · simp [lookup, found]
      · rcases List.mem_cons.1 member with same | later
        · exact absurd same.symm found
        · simpa [lookup, found] using ih later

theorem mem_of_isSome_lookup {key : String} {entries : List (String × α)}
    (found : (lookup key entries).isSome = true) : key ∈ entries.map (·.1) := by
  induction entries with
  | nil => simp [lookup] at found
  | cons first rest ih =>
      by_cases same : first.1 = key
      · exact same ▸ List.mem_cons_self
      · exact List.mem_cons_of_mem _ (ih (by simpa [lookup, same] using found))

theorem mem_keys_iff (table : Dictionary α) (key : String) :
    key ∈ table.keys ↔ (table.get? key).isSome = true :=
  ⟨isSome_lookup_of_mem, mem_of_isSome_lookup⟩

theorem eq_of_get? (left right : Dictionary α) (same : ∀ key, left.get? key = right.get? key) :
    left = right := by
  obtain ⟨leftEntries, leftOrdered⟩ := left
  obtain ⟨rightEntries, rightOrdered⟩ := right
  have := entries_ext leftEntries rightEntries leftOrdered rightOrdered same
  subst this
  rfl

end StreamWidth.Dictionary
