import StreamWidth.Failure

/-!
Lists in pieces of one size.
-/

namespace StreamWidth.Grouping

variable {α : Type}

def cut (size : Nat) : Nat → List α → List (List α)
  | 0, _ => []
  | count + 1, items => items.take size :: cut size count (items.drop size)

def groups (size : Nat) (items : List α) : Except Failure (List (List α)) :=
  if size = 0 then .error (.fault .emptyGroup)
  else .ok (cut size ((items.length + size - 1) / size) items)

theorem cut_length (size count : Nat) (items : List α) : (cut size count items).length = count := by
  induction count generalizing items with
  | zero => rfl
  | succ count ih => simp [cut, ih]

theorem flatten_cut (size count : Nat) (items : List α) (whole : items.length = count * size) :
    (cut size count items).flatten = items := by
  induction count generalizing items with
  | zero =>
      have empty : items = [] := List.eq_nil_of_length_eq_zero (by simpa using whole)
      simp [cut, empty]
  | succ count ih =>
      have rest : (items.drop size).length = count * size := by
        rw [List.length_drop, whole, Nat.succ_mul]
        omega
      simp [cut, ih _ rest]

theorem length_of_mem_cut (size count : Nat) (items piece : List α)
    (enough : count * size ≤ items.length) (member : piece ∈ cut size count items) :
    piece.length = size := by
  induction count generalizing items with
  | zero => simp [cut] at member
  | succ count ih =>
      rw [Nat.succ_mul] at enough
      rcases List.mem_cons.1 member with same | later
      · rw [same, List.length_take]
        omega
      · exact ih _ (by rw [List.length_drop]; omega) later

theorem length_flatten (size : Nat) (pieces : List (List α))
    (uniform : ∀ piece ∈ pieces, piece.length = size) :
    pieces.flatten.length = pieces.length * size := by
  induction pieces with
  | nil => simp
  | cons piece rest ih =>
      have head := uniform piece List.mem_cons_self
      have tail := ih fun other member => uniform other (List.mem_cons_of_mem _ member)
      rw [List.flatten_cons, List.length_append, head, tail, List.length_cons, Nat.succ_mul,
        Nat.add_comm]

theorem cut_flatten (size : Nat) (pieces : List (List α))
    (uniform : ∀ piece ∈ pieces, piece.length = size) :
    cut size pieces.length pieces.flatten = pieces := by
  induction pieces with
  | nil => rfl
  | cons piece rest ih =>
      have head := uniform piece List.mem_cons_self
      have tail := ih fun other member => uniform other (List.mem_cons_of_mem _ member)
      rw [List.length_cons, List.flatten_cons, cut, ← head, List.take_left, List.drop_left, head,
        tail]

theorem groups_of_whole (size count : Nat) (positive : 0 < size) (items : List α)
    (whole : items.length = count * size) : groups size items = .ok (cut size count items) := by
  have full : (items.length + size - 1) / size = count := by
    rw [whole, Nat.add_sub_assoc positive, Nat.add_comm, Nat.add_mul_div_right _ _ positive,
      Nat.div_eq_of_lt (Nat.sub_lt positive Nat.one_pos), Nat.zero_add]
  rw [groups, if_neg (Nat.ne_of_gt positive), full]

end StreamWidth.Grouping
