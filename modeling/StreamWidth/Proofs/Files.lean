import StreamWidth.Files.Tree
import StreamWidth.Proofs.Converters

/-!
What is written to a file is read from it. A path that leads to the file leads there still, since no
path goes on from a file and no file takes the place of a directory or of a link.
-/

namespace StreamWidth

theorem Text.pieces_eq_splitOn (separator : Char) (text : List Char) :
    pieces separator text = text.splitOn separator := by
  induction text with
  | nil => rfl
  | cons c rest ih =>
      rw [pieces, List.splitOn_cons_eq_if_modifyHead, ih]
      by_cases ends : c = separator
      · simp [ends]
      · cases split : rest.splitOn separator with
        | nil => exact absurd split (List.splitOn_ne_nil separator rest)
        | cons piece pieces => simp [ends, prependToFirst]

theorem Path.names_ne_nil (path : String) : names path ≠ [] := by
  simp [names, Text.pieces_eq_splitOn]

namespace FileTree

/-- A place that no path leads on from. -/
structure IsEnd (tree : FileTree) (place : Location) : Prop where
  directory : ∀ mode, tree.entry? place ≠ some (.directory mode)
  link : ∀ target, tree.entry? place ≠ some (.link target)

section

variable {tree : FileTree} {place : Location} {entry : FileEntry}

theorem IsEnd.ne_nil (isEnd : tree.IsEnd place) : place ≠ [] := by
  rintro rfl
  exact isEnd.directory 0o755 rfl

theorem entry?_put (below : place ≠ []) (location : Location) :
    FileTree.entry? (tree.put place entry) location =
      if location = place then some entry else tree.entry? location := by
  by_cases here : location = place
  · subst here
    simp [ entry?, put, below]
  · have kept : (tree.entries.filter (·.1 != place)).find? (·.1 == location) =
        tree.entries.find? (·.1 == location) := by
      rw [List.find?_filter]
      congr 1
      funext item
      by_cases found : item.1 = location <;> simp [found, here]
    simp only [if_neg here, entry?, put, List.find?_cons, beq_false_of_ne (Ne.symm here), kept]

theorem exists_directory_of_step {location next : Location} {name : String}
    (success : tree.step location name = .ok next) :
    ∃ mode, tree.entry? location = some (.directory mode) := by
  rw [step] at success
  split at success
  · simp at success
  · rename_i mode found
    exact ⟨mode, found⟩
  · simp at success

theorem step_put (isEnd : tree.IsEnd place) {location next : Location} {name : String}
    (success : tree.step location name = .ok next) :
    (tree.put place entry).step location name = .ok next := by
  obtain ⟨mode, found⟩ := exists_directory_of_step success
  have other : location ≠ place := by
    rintro rfl
    exact isEnd.directory mode found
  rwa [step, entry?_put isEnd.ne_nil, if_neg other]

theorem follow_put (isEnd : tree.IsEnd place) (solid : ∀ target, entry ≠ .link target) (last : Bool)
    (names : List String) : ∀ {location : Location} {passage : Passage},
    tree.follow last location names = .ok passage →
      (tree.put place entry).follow last location names = .ok passage := by
  induction names with
  | nil => exact fun success => success
  | cons name rest ih =>
      intro location passage success
      obtain ⟨next, stepped, success⟩ := bind_eq_ok_iff.1 success
      refine bind_eq_ok_iff.2 ⟨next, step_put isEnd stepped, ?_⟩
      rw [entry?_put isEnd.ne_nil]
      -- At the place itself the names must end, both before and after something was put there.
      by_cases here : next = place
      · subst here
        rw [if_pos rfl]
        split at success
        · rename_i target found
          exact absurd found (isEnd.link target)
        · split
          · rename_i target same
            exact absurd (Option.some.inj same) (solid target)
          · exact ih success
      · rw [if_neg here]
        split at success
        · exact success
        · exact ih success

theorem resolve_put (isEnd : tree.IsEnd place) (solid : ∀ target, entry ≠ .link target) (last : Bool)
    (links : Nat) : ∀ {location found : Location} {names : List String},
    tree.resolve last links location names = .ok found →
      (tree.put place entry).resolve last links location names = .ok found := by
  induction links with
  | zero => exact fun success => success
  | succ links ih =>
      intro location found names success
      obtain ⟨passage, followed, success⟩ := bind_eq_ok_iff.1 success
      refine bind_eq_ok_iff.2 ⟨passage, follow_put isEnd solid last names followed, ?_⟩
      cases passage with
      | reached => exact success
      | turned directory target rest =>
          dsimp only at success ⊢
          split at success
          · simp [throw, throwThe, MonadExceptOf.throw] at success
          · rename_i nonempty
            rw [if_neg nonempty]
            exact ih success

theorem locate_put (isEnd : tree.IsEnd place) (solid : ∀ target, entry ≠ .link target) {path : String}
    {found : Location} (success : tree.locate path = .ok found) :
    (tree.put place entry).locate path = .ok found := by
  obtain ⟨location, started, success⟩ := bind_eq_ok_iff.1 success
  exact bind_eq_ok_iff.2 ⟨location, started, resolve_put isEnd solid true _ success⟩

theorem not_link_of_follow (names : List String) : ∀ {location found : Location}, names ≠ [] →
    tree.follow true location names = .ok (.reached found) →
      ∀ target, tree.entry? found ≠ some (.link target) := by
  induction names with
  | nil => exact fun nonempty => absurd rfl nonempty
  | cons name rest ih =>
      intro location found _ success
      obtain ⟨next, _, success⟩ := bind_eq_ok_iff.1 success
      split at success
      · simp [pure, Except.pure] at success
      · rename_i other
        by_cases empty : rest = []
        · subst empty
          obtain rfl := Passage.reached.inj (Except.ok.inj success)
          exact other
        · exact ih empty success

theorem not_link_of_resolve (links : Nat) : ∀ {location found : Location} {names : List String},
    names ≠ [] → tree.resolve true links location names = .ok found →
      ∀ target, tree.entry? found ≠ some (.link target) := by
  induction links with
  | zero =>
      intro location found names _ success
      simp [resolve] at success
  | succ links ih =>
      intro location found names nonempty success
      obtain ⟨passage, followed, success⟩ := bind_eq_ok_iff.1 success
      cases passage with
      | reached place =>
          obtain rfl := Except.ok.inj success
          exact not_link_of_follow names nonempty followed
      | turned directory target rest =>
          dsimp only at success
          split at success
          · simp [throw, throwThe, MonadExceptOf.throw] at success
          · exact ih (by simp [Path.names_ne_nil]) success

theorem not_link_of_locate {path : String} {found : Location}
    (success : tree.locate path = .ok found) (target : String) :
    tree.entry? found ≠ some (.link target) := by
  obtain ⟨location, _, success⟩ := bind_eq_ok_iff.1 success
  exact not_link_of_resolve _ (Path.names_ne_nil path) success target

theorem find_put (isEnd : tree.IsEnd place) (solid : ∀ target, entry ≠ .link target) {path : String}
    (located : tree.locate path = .ok place) : (tree.put place entry).find path = .ok entry := by
  rw [find, locate_put isEnd solid located]
  simp only [bind, Except.bind, entry?_put isEnd.ne_nil, ↓reduceIte]
  rfl

theorem exists_file_of_isFile {path : String} (file : tree.isFile path = true) :
    ∃ content mode, tree.find path = .ok (.file content mode) := by
  rw [isFile] at file
  split at file
  · rename_i content mode found
    exact ⟨content, mode, found⟩
  · simp at file

/-- What was written to a file is what is read from it. -/
theorem read_write {next : FileTree} {path : String} {content : ByteArray}
    (written : tree.write path content = .ok next) (file : next.isFile path = true) :
    next.read path = .ok content := by
  obtain ⟨location, located, success⟩ := bind_eq_ok_iff.1 written
  obtain ⟨held, mode, found⟩ := exists_file_of_isFile file
  have link := not_link_of_locate located
  split at success
  · simp [throw, throwThe, MonadExceptOf.throw] at success
  · rename_i before mode present
    obtain rfl := Except.ok.inj success
    have isEnd : tree.IsEnd location := ⟨by simp [present], link⟩
    rw [read, find_put isEnd (by simp) located]
    rfl
  · rename_i before mode present
    obtain rfl := Except.ok.inj success
    have isEnd : tree.IsEnd location := ⟨by simp [present], link⟩
    rw [find_put isEnd (by simp) located] at found
    simp at found
  · rename_i device present
    obtain ⟨_, _, same⟩ := bind_eq_ok_iff.1 success
    obtain rfl := Except.ok.inj same
    simp [find, located, present, bind, Except.bind, pure, Except.pure] at found
  · rename_i directory _ _ _
    obtain rfl := Except.ok.inj success
    have isEnd : tree.IsEnd location := ⟨directory, link⟩
    rw [read, find_put isEnd (by simp) located]
    rfl

end

end FileTree

end StreamWidth
