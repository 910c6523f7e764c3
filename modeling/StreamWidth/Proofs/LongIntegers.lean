import StreamWidth.Proofs.Converters
import StreamWidth.Proofs.RoundTrip

/-!
Integer types of more bits than are supported, which packing does not refuse. Double precision
rounds the greatest value of the longest of them up to a power of two, so this power is taken for a
value, and comes back as the integer that its lowest bits stand for.
-/

namespace StreamWidth

namespace ElementType

open Binary32 (integerLimit)

/-- Integer types beyond the supported ones that have bounds at all. -/
inductive IsLong : ElementType → Prop
  | unsigned {bits} : greatestIntegerBits < bits → bits < 64 → IsLong (unsigned bits)
  | signed {bits} : greatestIntegerBits < bits → bits ≤ 64 → IsLong (signed bits)

def valueBits (type : ElementType) : Nat :=
  if type.isSigned then type.bitwidth - 1 else type.bitwidth

theorem valueBits_le (type : ElementType) : type.valueBits ≤ type.bitwidth := by
  rw [valueBits]
  split <;> omega

def roundedGreatest (type : ElementType) : Int :=
  if Binary64.precision < type.valueBits then 2 ^ type.valueBits else 2 ^ type.valueBits - 1

section

variable {type : ElementType} (long : type.IsLong)

include long

theorem isIntegral_of_long : type.isIntegral = true := by
  cases long <;> rfl

theorem storageBits_of_long : type.storageBits = type.bitwidth := by
  cases long <;> rfl

theorem bitwidth_of_long :
    greatestIntegerBits < type.bitwidth ∧ type.bitwidth ≤ Word.fieldLimit := by
  cases long with
  | unsigned above below => exact ⟨above, Nat.le_of_lt below⟩
  | signed above below => exact ⟨above, below⟩

theorem fits_iff_of_long (n : Int) : type.Fits n ↔ type.least ≤ n ∧ n < 2 ^ type.valueBits := by
  cases long <;> exact Iff.rfl

theorem minimum_of_long : type.minimum = .ok type.least := by
  cases long with
  | unsigned => rfl
  | signed above below => exact if_pos ⟨Nat.zero_lt_of_lt above, below⟩

theorem maximum_of_long : type.maximum = .ok type.roundedGreatest := by
  have rounded (bits : Nat) : Binary64.nearest (2 ^ bits - 1) =
      if Binary64.precision < bits then 2 ^ bits else 2 ^ bits - 1 := by
    split
    · rename_i large
      exact nearest_two_pow_sub_one_of_large large
    · rename_i small
      exact nearest_two_pow_sub_one (Nat.not_lt.1 small)
  cases long with
  | unsigned above below =>
      rw [maximum, if_pos below, rounded]
      rfl
  | signed above below =>
      rw [maximum, if_pos ⟨Nat.zero_lt_of_lt above, below⟩, rounded]
      rfl

theorem least_le_two_pow_of_long : type.least ≤ 2 ^ type.valueBits := by
  have positive : (0 : Int) < 2 ^ type.valueBits := Int.pow_pos (by decide)
  cases long with
  | unsigned => exact Int.le_of_lt positive
  | signed =>
      have nonneg := Int.le_of_lt positive
      exact Int.le_trans (Int.neg_nonpos_of_nonneg nonneg) nonneg

theorem accepts_iff_of_long (x : Binary32) :
    type.accepts x = .ok true ↔ ∃ n, x.toInt? = some n ∧
      (type.Fits n ∨ Binary64.precision < type.valueBits ∧ n = 2 ^ type.valueBits) := by
  have within := withinBounds_of_bounds (minimum_of_long long) (maximum_of_long long)
  have lowest := least_le_two_pow_of_long long
  have bounded (n : Int) : type.least ≤ n ∧ n ≤ type.roundedGreatest ↔
      type.Fits n ∨ Binary64.precision < type.valueBits ∧ n = 2 ^ type.valueBits := by
    rw [fits_iff_of_long long, roundedGreatest]
    split <;> omega
  cases found : x.toInt? with
  | none => cases long <;> simp [accepts, found]
  | some n =>
      have decided : type.accepts x = type.withinBounds n := by
        cases long <;> simp only [accepts, found]
      simp [decided, within, bounded]

end

/-- The first power of two that the value bits of a type do not hold. The longest type is no example:
its conversion stops below the power, and single precision rounds it up again. -/
def Spills (type : ElementType) (x : Binary32) : Prop :=
  type ≠ signed 64 ∧ x.toInt? = some (2 ^ type.valueBits)

instance (type : ElementType) (x : Binary32) : Decidable (type.Spills x) :=
  inferInstanceAs (Decidable (_ ∧ _))

def longReceived (type : ElementType) (x : Binary32) : Binary32 :=
  if type.Spills x then .ofInt (2 ^ type.valueBits - 2 ^ type.bitwidth) else x.withoutZeroSign

section

variable {type : ElementType} (long : type.IsLong) {x : Binary32}

include long

theorem kept_of_spills (spills : type.Spills x) : type.Kept (2 ^ type.valueBits) := by
  have positive : (0 : Int) < 2 ^ type.valueBits := Int.pow_pos (by decide)
  cases long with
  | unsigned _ below => exact ⟨Int.le_of_lt positive, Int.pow_lt_pow_of_lt (by decide) below⟩
  | @signed bits above below =>
      have shorter : bits ≠ 64 := fun whole => spills.1 (congrArg _ whole)
      exact ⟨by omega, Int.pow_lt_pow_of_lt (by decide) (show bits - 1 < 63 by omega)⟩

theorem fits_spilled : type.Fits (2 ^ type.valueBits - 2 ^ type.bitwidth) := by
  have positive : (0 : Int) < 2 ^ type.valueBits := Int.pow_pos (by decide)
  rw [fits_iff_of_long long]
  cases long with
  | unsigned =>
      simp only [least, valueBits, isSigned, bitwidth, Bool.false_eq_true, ↓reduceIte] at positive ⊢
      omega
  | signed above below =>
      have double := two_pow_eq_double (Nat.zero_lt_of_lt above)
      simp only [least, valueBits, isSigned, bitwidth, ↓reduceIte] at positive ⊢
      omega

theorem ofElementCode_of_spills (spills : type.Spills x) :
    type.ofElementCode (type.elementCode x) =
      .ofInt (2 ^ type.valueBits - 2 ^ type.bitwidth) := by
  have integral := isIntegral_of_long long
  have positive := Nat.zero_lt_of_lt (bitwidth_of_long long).1
  have cast : ((2 ^ type.bitwidth : Nat) : Int) = 2 ^ type.bitwidth := Int.natCast_pow 2 _
  have read := codeInt_emod positive (fits_spilled long)
  rw [cast, Int.sub_emod_right] at read
  rw [elementCode_eq_emod integral spills.2 (kept_of_spills long spills), cast,
    ofElementCode_eq_ofInt integral, read]

theorem ofElementCode_elementCode_of_long (accepted : type.accepts x = .ok true) :
    type.ofElementCode (type.elementCode x) = type.longReceived x := by
  obtain ⟨n, found, taken⟩ := (accepts_iff_of_long long x).1 accepted
  rw [longReceived]
  split
  · rename_i spills
    exact ofElementCode_of_spills long spills
  · rename_i keeps
    obtain ⟨wide, short⟩ := bitwidth_of_long long
    rcases taken with fits | ⟨_, rfl⟩
    · exact ofElementCode_of_fits (isIntegral_of_long long) (Nat.zero_lt_of_lt wide) short found
        fits
    · -- A power that does not spill is the one beyond the longest type.
      obtain rfl : type = signed 64 := Decidable.not_not.1 fun other => keeps ⟨other, found⟩
      obtain rfl := Binary32.eq_ofInt_of_toInt? found (by decide)
      decide

theorem spilled_not_sameNumber (spills : type.Spills x) :
    ¬(Binary32.ofInt (2 ^ type.valueBits - 2 ^ type.bitwidth)).sameNumber x = true := by
  -- The power of two is positive, and what comes back for it is not.
  intro same
  obtain ⟨_, found⟩ := spills
  have cast (bits : Nat) : ((2 ^ bits : Nat) : Int) = 2 ^ bits := Int.natCast_pow 2 _
  have value := cast type.valueBits
  have whole := cast type.bitwidth
  have positive := Nat.two_pow_pos type.valueBits
  have power : (2 : Nat) ^ type.valueBits ≤ 2 ^ type.bitwidth :=
    Nat.pow_le_pow_right (by decide) type.valueBits_le
  have limit : (2 : Nat) ^ type.bitwidth ≤ 2 ^ 64 :=
    Nat.pow_le_pow_right (by decide) (bitwidth_of_long long).2
  obtain ⟨count, negative⟩ := Int.exists_eq_neg_ofNat
    (show (2 : Int) ^ type.valueBits - 2 ^ type.bitwidth ≤ 0 by omega)
  have few : (-(count : Int)).natAbs < integerLimit :=
    Nat.lt_of_le_of_lt (show _ ≤ 2 ^ 64 by omega) (by decide)
  rw [negative] at same
  have arrived := Binary32.toInt?_ofInt few
  have finite := ((Binary32.toInt?_eq_some_iff _ _).1 arrived).1
  have otherFinite := ((Binary32.toInt?_eq_some_iff _ _).1 found).1
  rw [Binary32.toInt?_eq_of_sameNumber finite otherFinite same, found, nearest_neg_natCast,
    Option.some.injEq] at arrived
  omega

theorem longReceived_sameNumber_iff (accepted : type.accepts x = .ok true) :
    (type.longReceived x).sameNumber x = true ↔ ¬type.Spills x := by
  obtain ⟨n, found, _⟩ := (accepts_iff_of_long long x).1 accepted
  have finite := ((Binary32.toInt?_eq_some_iff x n).1 found).1
  rw [longReceived]
  split
  · rename_i spills
    exact iff_of_false (spilled_not_sameNumber long spills) (not_not_intro spills)
  · rename_i keeps
    exact iff_of_true (Binary32.withoutZeroSign_sameNumber finite) keeps

end

end ElementType

namespace Tensor

variable {tensor : Tensor} {width : Nat}

theorem of_pack_eq_ok {words : List Word} (packed : tensor.pack width = .ok words) :
    tensor.firstDisallowed = .ok none ∧
      ∃ channels, Shape.Folds tensor.shape width tensor.type.storageBits channels := by
  rw [pack, bind_eq_ok_iff] at packed
  obtain ⟨refused, searched, rest⟩ := packed
  cases refused with
  | some found => simp [bind, Except.bind] at rest
  | none =>
      obtain ⟨folded, fold, _⟩ := bind_eq_ok_iff.1 rest
      obtain ⟨channels, folds, _⟩ := (Shape.fold_eq_ok_iff _ _ _ _).1 fold
      exact ⟨searched, channels, folds⟩

/-- A long type takes for a value what its bits hold, and if it has more bits of value than double
precision one power of two beside. Packed tensors are unpacked again, and are the same unless they
have this power for an element: then its lowest bits come back for it. -/
theorem unpack_pack_long (tensor : Tensor) (width : Nat) (words : List Word)
    (long : tensor.type.IsLong) (few : tensor.data.length < capacity)
    (packed : tensor.pack width = .ok words) :
    (∀ x, tensor.type.accepts x = .ok true ↔ ∃ n, x.toInt? = some n ∧
      (tensor.type.Fits n ∨ 53 < tensor.type.valueBits ∧ n = 2 ^ tensor.type.valueBits)) ∧
    ∃ back, unpack words tensor.type width tensor.shape = .ok back ∧
      back.shape = tensor.shape ∧ back.type = tensor.type ∧
      back.data = tensor.data.map tensor.type.longReceived ∧
      (back.sameNumbers tensor = true ↔ ∀ x ∈ tensor.data, ¬tensor.type.Spills x) ∧
      (tensor.type.valueBits ≤ 53 ∨ tensor.type = .signed 64 →
        back.sameNumbers tensor = true) := by
  have taken := ElementType.accepts_iff_of_long long
  refine ⟨taken, ?_⟩
  obtain ⟨allowed, channels, folds⟩ := of_pack_eq_ok packed
  have accepted := (firstDisallowed_eq_none_iff tensor).1 allowed
  have countable := folds.countable_of_lt (by
    rw [← tensor.filled]
    exact Nat.lt_trans few (by decide))
  have short : tensor.type.storageBits ≤ Word.fieldLimit := by
    rw [ElementType.storageBits_of_long long]
    exact (ElementType.bitwidth_of_long long).2
  obtain rfl := Except.ok.inj (packed.symm.trans
    (tensor.pack_eq_toWords short allowed folds countable))
  have same : (tensor.map tensor.type tensor.type.longReceived).sameNumbers tensor = true ↔
      ∀ x ∈ tensor.data, ¬tensor.type.Spills x := by
    rw [sameNumbers_map_iff]
    exact forall_congr' fun x => imp_congr_right fun member =>
      ElementType.longReceived_sameNumber_iff long (accepted x member)
  refine ⟨_, unpack_toWords short folds countable fun x member =>
      ElementType.ofElementCode_elementCode_of_long long (accepted x member), rfl, rfl, rfl, same,
    fun kept => same.2 fun x member spills => ?_⟩
  obtain ⟨n, found, fits | large⟩ := (taken x).1 (accepted x member)
  · rw [ElementType.fits_iff_of_long long] at fits
    have power := Option.some.inj (found.symm.trans spills.2)
    omega
  · exact kept.elim (Nat.not_le.2 large.1) spills.1

def spilledPair : Tensor :=
  ⟨⟨[2]⟩, [.ofInt (2 ^ 54), .ofInt 5], .unsigned 54, rfl⟩

theorem unpack_pack_long_spilledPair :
    spilledPair.pack 108 = .ok [.ofNat 108 (5 * 2 ^ 54)] ∧
      ∃ back, unpack [.ofNat 108 (5 * 2 ^ 54)] (.unsigned 54) 108 ⟨[2]⟩ = .ok back ∧
        back.data = [.zero, .ofInt 5] ∧ back.sameNumbers spilledPair = false := by
  have packed : spilledPair.pack 108 = .ok [.ofNat 108 (5 * 2 ^ 54)] := rfl
  obtain ⟨_, back, unpacked, _, _, data, same, _⟩ :=
    unpack_pack_long spilledPair 108 _ (.unsigned (by decide) (by decide)) (by decide) packed
  refine ⟨packed, back, unpacked, data.trans (by decide), Bool.eq_false_iff.2 fun equal => ?_⟩
  exact same.1 equal _ List.mem_cons_self (by decide)

theorem unpack_pack_spills :
    ¬∀ (tensor : Tensor) (width : Nat) (words : List Word), tensor.type.IsLong →
      tensor.data.length < capacity → tensor.pack width = .ok words →
      ∃ back, unpack words tensor.type width tensor.shape = .ok back ∧
        back.sameNumbers tensor = true := by
  intro returns
  have packed : spilledPair.pack 108 = .ok [.ofNat 108 (5 * 2 ^ 54)] := rfl
  have lost : unpack [.ofNat 108 (5 * 2 ^ 54)] spilledPair.type 108 spilledPair.shape =
      .ok ⟨⟨[2]⟩, [.zero, .ofInt 5], .unsigned 54, rfl⟩ := rfl
  obtain ⟨back, unpacked, same⟩ :=
    returns spilledPair 108 _ (.unsigned (by decide) (by decide)) (by decide) packed
  obtain rfl := Except.ok.inj (lost.symm.trans unpacked)
  exact absurd same (by decide)

end Tensor

end StreamWidth
