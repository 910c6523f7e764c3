import StreamWidth.Proofs.Elements
import StreamWidth.Proofs.Machine.Words

/-!
Bounds and codes of elements in machine integers. The widths of supported types leave every shift
and every difference in range.
-/

namespace StreamWidth.Machine

/-- What the machine makes of a computation that it does not stop. -/
def settled {α : Type} (result : Except Failure α) : Except Stop α :=
  result.mapError .failure

section

variable {α β : Type}

theorem settled_ok (value : α) : settled (.ok value) = .ok value :=
  rfl

theorem settled_ne_trap (result : Except Failure α) (cause : Trap) :
    settled result ≠ .error (.trap cause) := by
  cases result with
  | ok value => exact fun same => nomatch (same : Except.ok value = _)
  | error failure => exact fun same => Stop.noConfusion (Except.error.inj same)

theorem settled_bind (first : Except Failure α) (next : α → Except Failure β) :
    settled (first >>= next) = settled first >>= fun value => settled (next value) := by
  cases first <;> rfl

end

def least : ElementType → Except Stop Int
  | .binary | .unsigned _ => .ok 0
  | .bipolar | .ternary => .ok (-1)
  | .signed bits => do
      let size ← shiftLeft 64 1 (← sub bits 1)
      return -(size : Int)
  | .float32 => .ok (-ElementType.float32Greatest)

def greatest : ElementType → Except Stop Int
  | .binary | .bipolar | .ternary => .ok 1
  | .unsigned bits => do
      let last ← sub (← shiftLeft 64 1 bits) 1
      return Binary64.nearest last
  | .signed bits => do
      let last ← sub (← shiftLeft 64 1 (← sub bits 1)) 1
      return Binary64.nearest last
  | .float32 => .ok ElementType.float32Greatest

def withinBounds (type : ElementType) (value : Int) : Except Stop Bool := do
  if value < (← least type) then
    return false
  return value ≤ (← greatest type)

def accepts (type : ElementType) (x : Binary32) : Except Stop Bool :=
  match type with
  | .float32 => .ok x.isFinite
  | .bipolar => .ok (x.toInt? == some 1 || x.toInt? == some (-1))
  | _ =>
      match x.toInt? with
      | none => .ok false
      | some value => withinBounds type value

def firstRefused (type : ElementType) :
    Nat → List Binary32 → Except Stop (Option (Nat × Binary32))
  | _, [] => .ok none
  | index, x :: rest => do
      if ← accepts type x then firstRefused type (index + 1) rest
      else return some (index, x)

theorem shiftLeft_one {bits count : Nat} (small : count < bits) :
    shiftLeft bits 1 count = .ok (2 ^ count) := by
  have bound : (2 : Nat) ^ count < 2 ^ bits := Nat.pow_lt_pow_right Nat.one_lt_two small
  rw [shiftLeft, trapUnless_of small, Nat.one_shiftLeft, Nat.mod_eq_of_lt bound]

theorem natCast_two_pow_sub_one (bits : Nat) : ((2 ^ bits - 1 : Nat) : Int) = 2 ^ bits - 1 := by
  rw [Int.natCast_sub (Nat.one_le_two_pow), Int.natCast_pow]
  rfl

section

variable {type : ElementType} (supported : type.isSupported = true)
include supported

theorem least_eq_ok : least type = .ok type.least := by
  have bounds := ElementType.bits_of_supported supported
  cases type with
  | signed bits =>
      simp only [ElementType.leastBits, ElementType.bitwidth, ElementType.greatestIntegerBits]
        at bounds
      simp only [least, sub, trapUnless_of (show 1 ≤ bits by omega), bind, Except.bind,
        shiftLeft_one (show bits - 1 < 64 by omega), pure, Except.pure, ElementType.least,
        Int.natCast_pow]
      rfl
  | _ => rfl

theorem greatest_eq_ok : greatest type = .ok type.greatest := by
  have bounds := ElementType.bits_of_supported supported
  cases type with
  | unsigned bits =>
      have small : bits ≤ ElementType.greatestIntegerBits := bounds.2
      have shifted : bits < 64 := Nat.lt_of_le_of_lt small (by decide)
      simp only [greatest, shiftLeft_one shifted, bind, Except.bind, sub,
        trapUnless_of (Nat.one_le_two_pow), pure, Except.pure, natCast_two_pow_sub_one,
        ElementType.nearest_two_pow_sub_one (Nat.le_trans small (by decide)), ElementType.greatest]
  | signed bits =>
      simp only [ElementType.leastBits, ElementType.bitwidth, ElementType.greatestIntegerBits]
        at bounds
      have small : bits - 1 ≤ Binary64.precision := by
        simp only [Binary64.precision]
        omega
      simp only [greatest, sub, trapUnless_of (show 1 ≤ bits by omega), bind, Except.bind,
        shiftLeft_one (show bits - 1 < 64 by omega), trapUnless_of (Nat.one_le_two_pow), pure,
        Except.pure, natCast_two_pow_sub_one, ElementType.nearest_two_pow_sub_one small,
        ElementType.greatest]
  | _ => rfl

theorem accepts_eq_settled (x : Binary32) : accepts type x = settled (type.accepts x) := by
  have within (value : Int) : withinBounds type value = settled (type.withinBounds value) := by
    rw [withinBounds, least_eq_ok supported, greatest_eq_ok supported, ElementType.withinBounds,
      ElementType.minimum_eq_least supported, ElementType.maximum_eq_greatest supported]
    simp only [bind, Except.bind]
    split <;> rfl
  cases type with
  | float32 | bipolar => rfl
  | _ =>
      simp only [accepts, ElementType.accepts]
      cases x.toInt? with
      | none => rfl
      | some value => exact within value

theorem firstRefused_eq_settled (elements : List Binary32) : ∀ index,
    firstRefused type index elements = settled (Tensor.firstRefused type index elements) := by
  induction elements with
  | nil => exact fun _ => rfl
  | cons x rest ih =>
      intro index
      rw [firstRefused, Tensor.firstRefused, settled_bind, accepts_eq_settled supported]
      refine congrArg _ (funext fun accepted => ?_)
      cases accepted with
      | true => exact ih (index + 1)
      | false => rfl

end

def mask (bits : Nat) : Except Stop Nat := do
  if bits = 64 then
    return 2 ^ 64 - 1
  sub (← shiftLeft 64 1 bits) 1

def encode (storage : ElementType) (x : Binary32) : Except Stop Nat := do
  let mask ← mask storage.bitwidth
  match storage with
  | .float32 => return x.bits.toNat
  | _ =>
      if storage.isSigned then
        return (x.toIntWithin (-2 ^ 63) (2 ^ 63 - 1) % 2 ^ 64).toNat &&& mask
      else return (x.toIntWithin 0 (2 ^ 64 - 1)).toNat &&& mask

def shiftRightSigned (bits : Nat) (number : Int) (count : Nat) : Except Stop Int :=
  trapUnless (count < bits) .oversizedShift (number >>> count)

def decode (storage : ElementType) (raw : Nat) : Except Stop Binary32 := do
  match storage with
  | .float32 => return .ofPattern raw
  | _ =>
      if storage.isSigned then
        let shift ← sub 64 storage.bitwidth
        let raised ← shiftLeft 64 raw shift
        return .ofInt (← shiftRightSigned 64 (Int.bmod raised (2 ^ 64)) shift)
      else return .ofInt raw

theorem mask_eq_ok {bits : Nat} (small : bits ≤ 64) : mask bits = .ok (2 ^ bits - 1) := by
  rw [mask]
  split
  · rename_i whole
    rw [whole]
    rfl
  · rw [shiftLeft_one (by omega)]
    exact trapUnless_of Nat.one_le_two_pow _ _

theorem toNat_and_mask {n : Int} (bits : Nat) (natural : 0 ≤ n) :
    n.toNat &&& 2 ^ bits - 1 = (n % (2 ^ bits : Nat)).toNat := by
  rw [Nat.and_two_pow_sub_one_eq_mod, Int.toNat_emod natural (Int.natCast_nonneg _),
    Int.toNat_natCast]

theorem toIntWithin_nonneg (high : Int) (nonneg : 0 ≤ high) (x : Binary32) :
    0 ≤ x.toIntWithin 0 high := by
  rw [Binary32.toIntWithin]
  split
  · exact Int.le_refl 0
  · split
    · exact Int.le_max_left _ _
    · split
      · exact Int.le_refl 0
      · exact nonneg

theorem encode_eq_ok {storage : ElementType} (small : storage.bitwidth ≤ 64) (x : Binary32) :
    encode storage x = .ok (storage.code x) := by
  -- The low bits of a number are those of its low sixty-four.
  have wrapped (n : Int) : (n % 2 ^ 64).toNat &&& 2 ^ storage.bitwidth - 1 =
      (n % (2 ^ storage.bitwidth : Nat)).toNat := by
    have divides : ((2 ^ storage.bitwidth : Nat) : Int) ∣ 2 ^ 64 := by
      exact_mod_cast Nat.pow_dvd_pow 2 small
    rw [toNat_and_mask _ (Int.emod_nonneg n (by decide)), Int.emod_emod_of_dvd n divides]
  have natural := toNat_and_mask storage.bitwidth (toIntWithin_nonneg (2 ^ 64 - 1) (by decide) x)
  rw [encode, mask_eq_ok small]
  cases storage with
  | float32 => rfl
  | binary | unsigned bits => exact congrArg Except.ok natural
  | bipolar | ternary | signed bits => exact congrArg Except.ok (wrapped _)

theorem bmod_mul_div {scale half raw : Nat} (positive : 0 < scale) (bounded : raw < 2 * half) :
    Int.bmod (raw * scale : Nat) (2 * half * scale) / scale =
      if half ≤ raw then (raw : Int) - (2 * half : Nat) else raw := by
  have below : raw * scale < 2 * half * scale := Nat.mul_lt_mul_of_pos_right bounded positive
  have kept : ((raw * scale : Nat) : Int) % (2 * half * scale : Nat) = (raw * scale : Nat) :=
    Int.emod_eq_of_lt (Int.natCast_nonneg _) (Int.ofNat_lt.2 below)
  have middle : (((2 * half * scale : Nat) : Int) + 1) / 2 = (half * scale : Nat) := by
    rw [Nat.mul_assoc]
    omega
  have nonzero : (scale : Int) ≠ 0 := by omega
  rw [Int.bmod_def, kept, middle]
  by_cases upper : half ≤ raw
  · have large : ¬((raw * scale : Nat) : Int) < (half * scale : Nat) :=
      Int.not_lt.2 (Int.ofNat_le.2 (Nat.mul_le_mul_right scale upper))
    rw [if_neg large, if_pos upper, Int.natCast_mul, Int.natCast_mul, ← Int.sub_mul,
      Int.mul_ediv_cancel _ nonzero]
  · have small : ((raw * scale : Nat) : Int) < (half * scale : Nat) :=
      Int.ofNat_lt.2 (Nat.mul_lt_mul_of_pos_right (Nat.lt_of_not_le upper) positive)
    rw [if_pos small, if_neg upper, Int.natCast_mul, Int.mul_ediv_cancel _ nonzero]

theorem shiftRight_bmod {bits raw : Nat} (positive : 0 < bits) (small : bits ≤ 64)
    (bounded : raw < 2 ^ bits) :
    Int.bmod ((raw <<< (64 - bits)) % 2 ^ 64 : Nat) (2 ^ 64) >>> (64 - bits) =
      if 2 ^ bits ≤ 2 * raw then (raw : Int) - 2 ^ bits else raw := by
  have width : (2 : Nat) * 2 ^ (bits - 1) = 2 ^ bits := by
    rw [Nat.mul_comm, ← Nat.pow_succ]
    congr 1
    omega
  have whole : (2 : Nat) * 2 ^ (bits - 1) * 2 ^ (64 - bits) = 2 ^ 64 := by
    rw [width, ← Nat.pow_add]
    congr 1
    omega
  have below : raw * 2 ^ (64 - bits) < 2 ^ 64 := by
    rw [← whole, width]
    exact Nat.mul_lt_mul_of_pos_right bounded (Nat.two_pow_pos _)
  have restored := bmod_mul_div (Nat.two_pow_pos (64 - bits)) (width ▸ bounded)
  rw [whole, width] at restored
  have upper : 2 ^ bits ≤ 2 * raw ↔ 2 ^ (bits - 1) ≤ raw := by omega
  have cast : ((2 ^ bits : Nat) : Int) = 2 ^ bits := Int.natCast_pow 2 bits
  rw [Nat.shiftLeft_eq, Nat.mod_eq_of_lt below, Int.shiftRight_eq_div_pow, restored, cast]
  simp only [upper]

theorem decode_eq_ok {storage : ElementType} (positive : 0 < storage.bitwidth)
    (small : storage.bitwidth ≤ 64) {raw : Nat} (bounded : raw < 2 ^ storage.bitwidth) :
    decode storage raw = .ok (storage.ofCode raw) := by
  have shift : 64 - storage.bitwidth < 64 := by omega
  have signed : (do
      let shift ← sub 64 storage.bitwidth
      let raised ← shiftLeft 64 raw shift
      return .ofInt (← shiftRightSigned 64 (Int.bmod raised (2 ^ 64)) shift)) =
      Except.ok (if 2 ^ storage.bitwidth ≤ 2 * raw then
        Binary32.ofInt ((raw : Int) - 2 ^ storage.bitwidth) else .ofInt raw) := by
    simp only [sub, trapUnless_of small, bind, Except.bind, shiftLeft, trapUnless_of shift,
      shiftRightSigned, shiftRight_bmod positive small bounded, pure, Except.pure]
    split <;> rfl
  cases storage with
  | float32 | binary | unsigned bits => rfl
  | bipolar | ternary | signed bits =>
      refine signed.trans ?_
      simp only [ElementType.ofCode, ElementType.isSigned, Bool.true_and, decide_eq_true_eq]

end StreamWidth.Machine
