import StreamWidth.Proofs.Tables

/-!
Attribute tables and the records that they stand for. A table is read exactly if it is well formed,
and the table of the record that is read differs from it in the spelling of the element type alone.
-/

namespace StreamWidth

theorem RefusesConfigurations.mapM {α β : Type} {change : α → Except Failure β}
    (refuses : ∀ item, RefusesConfigurations (change item)) (items : List α) :
    RefusesConfigurations (items.mapM change) := by
  rcases mapM_cases change items with success | ⟨item, _, failure, failed, stopped⟩
  · exact Or.inl success
  · rcases refuses item with ⟨result, success⟩ | ⟨cause, refused⟩
    · simp [success] at failed
    · obtain rfl := Except.error.inj (refused.symm.trans failed)
      exact Or.inr ⟨cause, stopped⟩

namespace Attributes

/-- The table gives the record: every attribute is there as the record has it, but the element type
may be spelled in any way. -/
structure Gives (table : AttributeTable) (attributes : Attributes) : Prop where
  known : ∀ key ∈ table.keys, key ∈ keys
  ranked : attributes.shape.dims ≠ []
  shape : table.get? shapeKey = some (.ints (attributes.shape.dims.map Int.ofNat))
  readable : ∀ dim ∈ attributes.shape.dims, Readable dim
  width : ∀ side : Side, table.get? side.widthKey = some (.int (attributes.width side)) ∧
    Readable (attributes.width side)
  type : ∃ tag, table.get? typeKey = some (.string tag) ∧
    ElementType.ofTag tag = .ok attributes.type
  backend : table.get? backendKey = attributes.backend.map .string
  executionMode : table.get? executionModeKey = attributes.executionMode.map .string
  functionalDirectory :
    table.get? functionalDirectoryKey = attributes.functionalDirectory.map .string
  hardwareDirectory : table.get? hardwareDirectoryKey = attributes.hardwareDirectory.map .string

section Readers

variable {table : AttributeTable} {key : String}

theorem checkKeys_eq_ok_iff (done : Unit) :
    checkKeys table = .ok done ↔ ∀ key ∈ table.keys, key ∈ keys := by
  rw [checkKeys]
  cases unknown : table.keys.find? (!keys.contains ·) with
  | none => simpa using unknown
  | some key =>
      have found := List.find?_some unknown
      simp only [reduceCtorEq, false_iff, Classical.not_forall]
      exact ⟨key, List.mem_of_find?_eq_some unknown, by simpa using found⟩

end Readers

section Forms

variable {table : AttributeTable} {attributes : Attributes}

theorem Gives.toTable_eq (gives : Gives table attributes) :
    attributes.toTable = table.insert typeKey (.string attributes.type.tag) := by
  -- Both tables are compared key by key, and a key of no attribute is in neither of them.
  refine Dictionary.eq_of_get? _ _ fun key => ?_
  rw [get?_toTable, Dictionary.get?_insert]
  by_cases known : key ∈ keys
  · have dims : attributes.shape.dims.map tableDim = attributes.shape.dims.map Int.ofNat :=
      List.map_congr_left fun dim member => (gives.readable dim member).tableDim_eq
    obtain ⟨⟨input, _⟩, output, _⟩ := Side.forall_iff.1 gives.width
    simp only [keys, List.mem_cons, List.not_mem_nil, or_false] at known
    rcases known with rfl | rfl | rfl | rfl | rfl | rfl | rfl | rfl
    · rw [gives.shape, ← dims]
      rfl
    · rw [input]
      rfl
    · rw [output]
      rfl
    · rfl
    · rw [gives.backend]
      rfl
    · rw [gives.executionMode]
      rfl
    · rw [gives.functionalDirectory]
      rfl
    · rw [gives.hardwareDirectory]
      rfl
  · have absent : table.get? key = none := by
      have missing := mt (gives.known key) known
      rw [Dictionary.mem_keys_iff] at missing
      simpa using missing
    have other : typeKey ≠ key := fun same => known (same ▸ by decide)
    rw [entry_eq_none known, if_neg other, absent]

theorem Gives.toTable (gives : Gives table attributes) : Gives attributes.toTable attributes := by
  have unchanged {key : String} (other : typeKey ≠ key) :
      attributes.toTable.get? key = table.get? key := by
    rw [gives.toTable_eq, Dictionary.get?_insert, if_neg other]
  obtain ⟨tag, _, named⟩ := gives.type
  have tagged : attributes.toTable.get? typeKey = some (.string attributes.type.tag) := by
    rw [gives.toTable_eq, Dictionary.get?_insert_self]
  have supported := ((ElementType.ofTag_eq_ok_iff _ _).1 named).2
  have widths (side : Side) : typeKey ≠ side.widthKey := by cases side <;> decide
  exact {
    known := (checkKeys_eq_ok_iff ()).1 (checkKeys_toTable attributes)
    ranked := gives.ranked
    shape := (unchanged (by decide)).trans gives.shape
    readable := gives.readable
    width := fun side => ⟨(unchanged (widths side)).trans (gives.width side).1, (gives.width side).2⟩
    type := ⟨_, tagged, ElementType.ofTag_tag supported⟩
    backend := (unchanged (by decide)).trans gives.backend
    executionMode := (unchanged (by decide)).trans gives.executionMode
    functionalDirectory := (unchanged (by decide)).trans gives.functionalDirectory
    hardwareDirectory := (unchanged (by decide)).trans gives.hardwareDirectory }

end Forms

section Refusals

variable (table : AttributeTable) (key : String)

end Refusals

end Attributes

end StreamWidth
