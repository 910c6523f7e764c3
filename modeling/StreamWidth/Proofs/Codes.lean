import StreamWidth.Proofs.Elements

/-!
Elements and their codes. The code of a value stands for the value again; of the codes that stand
for no value, ternary has one, floating point the patterns that are not finite, and a wide integer
those that single precision rounds up to the next power of two.
-/

namespace StreamWidth.ElementType

open Binary32 (nearest integerLimit)

/-- The integer that a code of an integral type stands for. -/
def codeInt (type : ElementType) (code : Nat) : Int :=
  if type.isSigned && 2 ^ type.bitwidth ≤ 2 * code then (code : Int) - 2 ^ type.bitwidth else code

theorem codeInt_of_lower {type : ElementType} {code : Nat} (lower : 2 * code < 2 ^ type.bitwidth) :
    type.codeInt code = code := by
  rw [codeInt, decide_eq_false (Nat.not_le.2 lower), Bool.and_false, if_neg Bool.false_ne_true]

theorem codeInt_of_upper {type : ElementType} (sign : type.isSigned = true) {code : Nat}
    (upper : 2 ^ type.bitwidth ≤ 2 * code) :
    type.codeInt code = (code : Int) - 2 ^ type.bitwidth := by
  rw [codeInt, sign, decide_eq_true upper, Bool.and_self, if_pos rfl]

/-- The integers that the bits of a type hold. -/
def Fits (type : ElementType) (n : Int) : Prop :=
  if type.isSigned then -2 ^ (type.bitwidth - 1) ≤ n ∧ n < 2 ^ (type.bitwidth - 1)
  else 0 ≤ n ∧ n < 2 ^ type.bitwidth

theorem ofElementCode_eq_ofInt {type : ElementType} (integral : type.isIntegral = true) (code : Nat) :
    type.ofElementCode code = Binary32.ofInt (type.codeInt code) := by
  rw [codeInt, apply_ite Binary32.ofInt]
  cases type with
  | bipolar | float32 => simp [isIntegral] at integral
  | _ => rfl

theorem fits_of_integral {type : ElementType} (integral : type.isIntegral = true) {n : Int}
    (above : type.least ≤ n) (below : n ≤ type.greatest) : type.Fits n := by
  cases type with
  | bipolar | float32 => simp [isIntegral] at integral
  | _ =>
      simp only [Fits, isSigned, least, greatest, bitwidth, Bool.false_eq_true, ↓reduceIte]
        at above below ⊢
      omega

theorem two_pow_eq_double {bits : Nat} (positive : 0 < bits) :
    (2 : Int) ^ bits = 2 * 2 ^ (bits - 1) := by
  rw [← Int.pow_succ', show bits - 1 + 1 = bits by omega]

theorem codeInt_emod {type : ElementType} (positive : 0 < type.bitwidth) {n : Int}
    (fits : type.Fits n) : type.codeInt (n % (2 ^ type.bitwidth : Nat)).toNat = n := by
  have cast : ((2 ^ type.bitwidth : Nat) : Int) = 2 ^ type.bitwidth := Int.natCast_pow 2 _
  have double := two_pow_eq_double positive
  simp only [Fits] at fits
  rw [cast]
  cases sign : type.isSigned with
  | false =>
      simp only [sign, Bool.false_eq_true, ↓reduceIte] at fits
      rw [Int.emod_eq_of_lt fits.1 fits.2, codeInt, sign, Bool.false_and, if_neg Bool.false_ne_true,
        Int.toNat_of_nonneg fits.1]
  | true =>
      simp only [sign, ↓reduceIte] at fits
      by_cases negative : n < 0
      · have wrapped : n % 2 ^ type.bitwidth = n + 2 ^ type.bitwidth := by
          rw [← Int.add_emod_right, Int.emod_eq_of_lt (by omega) (by omega)]
        rw [wrapped, codeInt_of_upper sign (by omega)]
        omega
      · rw [Int.emod_eq_of_lt (by omega) (by omega), codeInt_of_lower (by omega)]
        omega

def Kept (type : ElementType) (n : Int) : Prop :=
  if type.isSigned then -2 ^ 63 ≤ n ∧ n < 2 ^ 63 else 0 ≤ n ∧ n < 2 ^ 64

theorem kept_of_fits {type : ElementType} (short : type.bitwidth ≤ Word.fieldLimit) {n : Int}
    (fits : type.Fits n) : type.Kept n := by
  have cast : ((2 ^ type.bitwidth : Nat) : Int) = 2 ^ type.bitwidth := Int.natCast_pow 2 _
  have halfCast : ((2 ^ (type.bitwidth - 1) : Nat) : Int) = 2 ^ (type.bitwidth - 1) :=
    Int.natCast_pow 2 _
  have power : (2 : Nat) ^ type.bitwidth ≤ 2 ^ 64 := Nat.pow_le_pow_right (by decide) short
  have half : (2 : Nat) ^ (type.bitwidth - 1) ≤ 2 ^ 63 :=
    Nat.pow_le_pow_right (by decide) (Nat.sub_le_sub_right short 1)
  cases sign : type.isSigned with
  | false =>
      simp only [Fits, Kept, sign, Bool.false_eq_true, ↓reduceIte] at fits ⊢
      omega
  | true =>
      simp only [Fits, Kept, sign, ↓reduceIte] at fits ⊢
      omega

theorem elementCode_eq_emod {type : ElementType} (integral : type.isIntegral = true)
    {x : Binary32} {n : Int} (found : x.toInt? = some n) (kept : type.Kept n) :
    type.elementCode x = (n % (2 ^ type.bitwidth : Nat)).toNat := by
  simp only [Kept] at kept
  cases type with
  | bipolar | float32 => simp [isIntegral] at integral
  | _ =>
      simp only [elementCode, storage, encode, code, isSigned, Bool.false_eq_true, ↓reduceIte]
        at kept ⊢
      rw [Binary32.toIntWithin_of_toInt? found (by omega) (by omega)]

theorem code_lt (storage : ElementType) (x : Binary32) :
    storage.code x < 2 ^ storage.bitwidth := by
  have wrapped (n : Int) : (n % (2 ^ storage.bitwidth : Nat)).toNat < 2 ^ storage.bitwidth := by
    have positive := Nat.two_pow_pos storage.bitwidth
    have low := Int.emod_nonneg n (show ((2 ^ storage.bitwidth : Nat) : Int) ≠ 0 by omega)
    have high := Int.emod_lt_of_pos n (show (0 : Int) < (2 ^ storage.bitwidth : Nat) by omega)
    omega
  cases storage with
  | float32 => exact x.bits.isLt
  | _ => exact wrapped _

theorem elementCode_lt (type : ElementType) (x : Binary32) :
    type.elementCode x < 2 ^ type.storageBits :=
  code_lt type.storage _

/-- What arrives of a value: only floating point has a code for the negative zero. -/
def received (type : ElementType) (x : Binary32) : Binary32 :=
  match type with
  | float32 => x
  | _ => x.withoutZeroSign

theorem legal_iff_of_integral {type : ElementType} (integral : type.isIntegral = true)
    (x : Binary32) :
    type.Legal x ↔ ∃ n, x.toInt? = some n ∧ type.least ≤ n ∧ n ≤ type.greatest := by
  cases type with
  | bipolar | float32 => simp [isIntegral] at integral
  | _ => exact Iff.rfl

theorem isFinite_of_legal {type : ElementType} {x : Binary32} (legal : type.Legal x) :
    x.isFinite = true := by
  have finite {n : Int} (found : x.toInt? = some n) : x.isFinite = true :=
    ((Binary32.toInt?_eq_some_iff x n).1 found).1
  cases type with
  | float32 => exact legal
  | bipolar => exact legal.elim finite finite
  | _ =>
      obtain ⟨n, found, _⟩ := legal
      exact finite found

theorem eq_of_legal_bipolar {x : Binary32} (legal : bipolar.Legal x) :
    x = .ofInt 1 ∨ x = .ofInt (-1) := by
  rcases legal with one | minus
  · exact Or.inl (Binary32.eq_ofInt_of_toInt? one (by decide))
  · exact Or.inr (Binary32.eq_ofInt_of_toInt? minus (by decide))

theorem ofElementCode_of_fits {type : ElementType} (integral : type.isIntegral = true)
    (positive : 0 < type.bitwidth) (short : type.bitwidth ≤ Word.fieldLimit) {x : Binary32}
    {n : Int} (found : x.toInt? = some n) (fits : type.Fits n) :
    type.ofElementCode (type.elementCode x) = x.withoutZeroSign := by
  rw [elementCode_eq_emod integral found (kept_of_fits short fits), ofElementCode_eq_ofInt integral,
    codeInt_emod positive fits, Binary32.ofInt_of_toInt? found]

theorem ofElementCode_elementCode {type : ElementType} (supported : type.isSupported = true)
    {x : Binary32} (legal : type.Legal x) :
    type.ofElementCode (type.elementCode x) = type.received x := by
  by_cases integral : type.isIntegral = true
  · obtain ⟨n, found, above, below⟩ := (legal_iff_of_integral integral x).1 legal
    have fits := fits_of_integral integral above below
    rw [ofElementCode_of_fits integral (bitwidth_positive supported) (bitwidth_short supported)
      found fits]
    cases type with
    | bipolar | float32 => simp [isIntegral] at integral
    | _ => rfl
  · cases type with
    | float32 => exact Binary32.eq_of_toNat_bits (Nat.mod_eq_of_lt x.bits.isLt)
    | bipolar =>
        rcases eq_of_legal_bipolar legal with rfl | rfl
        · decide
        · decide
    | _ => simp [isIntegral] at integral

theorem decode_encode {type : ElementType} {x : Binary32} (legal : type.Legal x) :
    type.decode (type.encode x) = x := by
  cases type with
  | bipolar =>
      rcases eq_of_legal_bipolar legal with rfl | rfl
      · decide
      · decide
  | _ => rfl

theorem received_eq (type : ElementType) (x : Binary32) :
    type.received x = x ∨ type ≠ .float32 ∧ x.magnitude = 0 ∧ type.received x = .zero := by
  cases type with
  | float32 => exact Or.inl rfl
  | _ =>
      by_cases nothing : x.magnitude = 0
      · exact Or.inr ⟨by simp, nothing, if_pos nothing⟩
      · exact Or.inl (if_neg nothing)

theorem received_sameNumber {type : ElementType} {x : Binary32} (finite : x.isFinite = true) :
    (type.received x).sameNumber x = true := by
  cases type with
  | float32 => exact Binary32.sameNumber_self finite
  | _ => exact Binary32.withoutZeroSign_sameNumber finite

/-- Two values arrive as one exactly if they are equal, in floating point as patterns. -/
theorem received_eq_iff (type : ElementType) {x y : Binary32} (finite : x.isFinite = true)
    (otherFinite : y.isFinite = true) :
    type.received x = type.received y ↔ x.sameNumber y = true ∧ (type = .float32 → x = y) := by
  cases type with
  | float32 =>
      constructor
      · rintro same
        obtain rfl : x = y := same
        exact ⟨Binary32.sameNumber_self finite, fun _ => rfl⟩
      · exact fun same => same.2 rfl
  | _ =>
      simp only [reduceCtorEq, false_imp_iff, and_true]
      exact Binary32.withoutZeroSign_eq_iff finite otherFinite

theorem legal_received {type : ElementType} {x : Binary32} (legal : type.Legal x) :
    type.Legal (type.received x) := by
  cases type with
  | float32 => exact legal
  | _ => simpa only [Legal, received, Binary32.toInt?_withoutZeroSign] using legal

def hasValue (type : ElementType) (code : Nat) : Bool :=
  match type with
  | binary | bipolar => true
  | ternary => code != 2
  | unsigned bits => bits ≤ 24 || code + 2 ^ (bits - 25) < 2 ^ bits
  | signed bits =>
      bits ≤ 25 || 2 ^ (bits - 1) ≤ code || code + 2 ^ (bits - 26) < 2 ^ (bits - 1)
  | float32 => (Binary32.ofPattern code).isFinite

/-- Whether an integer of a type is still one after rounding to single precision. The last integers
of a wide type are nearest to the next power of two. -/
def RoundsWithin (type : ElementType) (n : Int) : Prop :=
  match type with
  | unsigned bits => bits ≤ 24 ∨ n + 2 ^ (bits - 25) < 2 ^ bits
  | signed bits => bits ≤ 25 ∨ n + 2 ^ (bits - 26) < 2 ^ (bits - 1)
  | _ => True

instance (type : ElementType) (n : Int) : Decidable (type.RoundsWithin n) :=
  match type with
  | unsigned bits => inferInstanceAs (Decidable (bits ≤ 24 ∨ n + 2 ^ (bits - 25) < 2 ^ bits))
  | signed bits => inferInstanceAs (Decidable (bits ≤ 25 ∨ n + 2 ^ (bits - 26) < 2 ^ (bits - 1)))
  | binary | bipolar | ternary | float32 => .isTrue trivial

theorem legal_ofInt_iff_nearest {type : ElementType} (integral : type.isIntegral = true) {n : Int}
    (few : n.natAbs < integerLimit) :
    type.Legal (.ofInt n) ↔ type.least ≤ nearest n ∧ nearest n ≤ type.greatest := by
  rw [legal_iff_of_integral integral, Binary32.toInt?_ofInt few]
  constructor
  · rintro ⟨value, same, bounds⟩
    rwa [Option.some.inj same]
  · exact fun bounds => ⟨_, rfl, bounds⟩

theorem natAbs_lt_integerLimit {bits : Nat} (small : bits ≤ 32) {n : Int} (above : -2 ^ bits ≤ n)
    (below : n ≤ 2 ^ bits) : n.natAbs < integerLimit := by
  have power : (2 : Int) ^ bits < 2 ^ 33 := Int.pow_lt_pow_of_lt (by decide) (by omega)
  have limit : (2 : Nat) ^ 33 < integerLimit := by decide
  omega

theorem natAbs_codeInt_lt {type : ElementType} (supported : type.isSupported = true) {code : Nat}
    (bounded : code < 2 ^ type.bitwidth) : (type.codeInt code).natAbs < integerLimit := by
  have cast : ((2 ^ type.bitwidth : Nat) : Int) = 2 ^ type.bitwidth := Int.natCast_pow 2 _
  have above : -2 ^ type.bitwidth ≤ type.codeInt code := by
    simp only [codeInt]
    split <;> omega
  have below : type.codeInt code ≤ 2 ^ type.bitwidth := by
    simp only [codeInt]
    split <;> omega
  exact natAbs_lt_integerLimit (bits_of_supported supported).2 above below

theorem nearest_of_le {n : Int} (small : n.natAbs ≤ 2 ^ 24) : nearest n = n := by
  have exact : roundSignificant 24 n.natAbs = n.natAbs := by
    rcases Nat.lt_or_eq_of_le small with less | power
    · exact roundSignificant_of_lt (by decide) less
    · rw [power, roundSignificant_two_pow (by decide)]
  simp only [nearest, exact]
  omega

theorem nearest_natCast (n : Nat) : nearest (n : Int) = roundSignificant 24 n := by
  rw [nearest, if_neg (by omega), Int.natAbs_natCast]

theorem nearest_neg_natCast (n : Nat) : nearest (-(n : Int)) = -(roundSignificant 24 n : Int) := by
  by_cases zero : n = 0
  · subst zero
    decide
  · rw [nearest, if_pos (by omega), Int.natAbs_neg, Int.natAbs_natCast]

theorem legal_ofInt_unsigned_iff {bits : Nat} (supported : (unsigned bits).isSupported = true)
    {n : Int} (above : 0 ≤ n) (below : n < 2 ^ bits) :
    (unsigned bits).Legal (.ofInt n) ↔ (unsigned bits).RoundsWithin n := by
  have cast : ((2 ^ bits : Nat) : Int) = 2 ^ bits := Int.natCast_pow 2 _
  have step : ((2 ^ (bits - 25) : Nat) : Int) = 2 ^ (bits - 25) := Int.natCast_pow 2 _
  have positive : (0 : Int) < 2 ^ bits := Int.pow_pos (by decide)
  have small : bits ≤ 32 := (bits_of_supported supported).2
  have few := natAbs_lt_integerLimit small (by omega) (Int.le_of_lt below)
  rw [legal_ofInt_iff_nearest rfl few]
  obtain ⟨count, rfl⟩ := Int.eq_ofNat_of_zero_le above
  have rounded : roundSignificant 24 count < 2 ^ bits ↔ _ :=
    roundSignificant_lt_two_pow_iff (by decide) (by omega)
  rw [nearest_natCast]
  simp only [least, greatest, RoundsWithin]
  rw [show bits - 24 - 1 = bits - 25 by omega] at rounded
  omega

theorem legal_ofInt_signed_iff {bits : Nat} (supported : (signed bits).isSupported = true)
    {n : Int} (above : -2 ^ (bits - 1) ≤ n) (below : n < 2 ^ (bits - 1)) :
    (signed bits).Legal (.ofInt n) ↔ (signed bits).RoundsWithin n := by
  have half : ((2 ^ (bits - 1) : Nat) : Int) = 2 ^ (bits - 1) := Int.natCast_pow 2 _
  have step : ((2 ^ (bits - 26) : Nat) : Int) = 2 ^ (bits - 26) := Int.natCast_pow 2 _
  have small : bits ≤ 32 := (bits_of_supported supported).2
  have shorter : (2 : Nat) ^ (bits - 26) ≤ 2 ^ (bits - 1) :=
    Nat.pow_le_pow_right (by decide) (by omega)
  have few := natAbs_lt_integerLimit (show bits - 1 ≤ 32 by omega) above (Int.le_of_lt below)
  rw [legal_ofInt_iff_nearest rfl few]
  simp only [least, greatest, RoundsWithin]
  by_cases negative : n < 0
  · -- The least value is a power of two itself, which rounding never passes.
    obtain ⟨count, rfl⟩ := Int.exists_eq_neg_ofNat (Int.le_of_lt negative)
    have rounded : roundSignificant 24 count ≤ 2 ^ (bits - 1) :=
      roundSignificant_le_two_pow (by decide) (by omega)
    rw [nearest_neg_natCast]
    omega
  · obtain ⟨count, rfl⟩ := Int.eq_ofNat_of_zero_le (Int.not_lt.1 negative)
    have rounded : roundSignificant 24 count < 2 ^ (bits - 1) ↔ _ :=
      roundSignificant_lt_two_pow_iff (by decide) (by omega)
    rw [nearest_natCast]
    rw [show bits - 1 - 24 - 1 = bits - 26 by omega] at rounded
    omega

theorem legal_ofInt_iff {type : ElementType} (supported : type.isSupported = true)
    (integral : type.isIntegral = true) {n : Int} (above : type.least ≤ n)
    (below : n ≤ type.greatest) : type.Legal (.ofInt n) ↔ type.RoundsWithin n := by
  cases type with
  | bipolar | float32 => simp [isIntegral] at integral
  | unsigned bits => exact legal_ofInt_unsigned_iff supported above (Int.lt_of_le_sub_one below)
  | signed bits => exact legal_ofInt_signed_iff supported above (Int.lt_of_le_sub_one below)
  | binary | ternary =>
      simp only [least, greatest] at above below
      have few := natAbs_lt_integerLimit (show 1 ≤ 32 by decide) (n := n) (by omega) (by omega)
      rw [legal_ofInt_iff_nearest rfl few, nearest_of_le (by omega)]
      exact iff_of_true ⟨above, below⟩ trivial

theorem legal_unsigned_iff {bits code : Nat} (supported : (unsigned bits).isSupported = true)
    (bounded : code < 2 ^ bits) :
    (unsigned bits).Legal (.ofInt code) ↔ (unsigned bits).hasValue code = true := by
  have cast : ((2 ^ bits : Nat) : Int) = 2 ^ bits := Int.natCast_pow 2 _
  have step : ((2 ^ (bits - 25) : Nat) : Int) = 2 ^ (bits - 25) := Int.natCast_pow 2 _
  rw [legal_ofInt_unsigned_iff supported (by omega) (by omega)]
  simp only [RoundsWithin, hasValue, Bool.or_eq_true, decide_eq_true_eq]
  omega

theorem legal_signed_iff {bits code : Nat} (supported : (signed bits).isSupported = true)
    (bounded : code < 2 ^ bits) :
    (signed bits).Legal (.ofInt ((signed bits).codeInt code)) ↔
      (signed bits).hasValue code = true := by
  have atLeastTwo : 2 ≤ bits := (bits_of_supported supported).1
  have half : ((2 ^ (bits - 1) : Nat) : Int) = 2 ^ (bits - 1) := Int.natCast_pow 2 _
  have step : ((2 ^ (bits - 26) : Nat) : Int) = 2 ^ (bits - 26) := Int.natCast_pow 2 _
  have positive : 0 < bits := by omega
  have halves := Nat.two_pow_pred_mul_two positive
  have double := two_pow_eq_double positive
  by_cases upper : 2 ^ (bits - 1) ≤ code
  · -- The upper half of the codes is negative, where rounding leaves the bounds nowhere.
    have value : (signed bits).codeInt code = code - 2 ^ bits :=
      codeInt_of_upper rfl (by simp only [bitwidth]; omega)
    have shorter : (2 : Nat) ^ (bits - 26) ≤ 2 ^ (bits - 1) :=
      Nat.pow_le_pow_right (by decide) (by omega)
    rw [value, legal_ofInt_signed_iff supported (by omega) (by omega)]
    simp only [RoundsWithin, hasValue, Bool.or_eq_true, decide_eq_true_eq]
    omega
  · have value : (signed bits).codeInt code = code :=
      codeInt_of_lower (by simp only [bitwidth]; omega)
    rw [value, legal_ofInt_signed_iff supported (by omega) (by omega)]
    simp only [RoundsWithin, hasValue, Bool.or_eq_true, decide_eq_true_eq]
    omega

theorem legal_ofElementCode_iff {type : ElementType} (supported : type.isSupported = true)
    {code : Nat} (bounded : code < 2 ^ type.storageBits) :
    type.Legal (type.ofElementCode code) ↔ type.hasValue code = true := by
  cases type with
  | unsigned bits => exact legal_unsigned_iff supported bounded
  | signed bits =>
      rw [ofElementCode_eq_ofInt rfl]
      exact legal_signed_iff supported bounded
  | float32 => exact Iff.rfl
  | binary | ternary =>
      rw [ofElementCode_eq_ofInt rfl,
        legal_ofInt_iff_nearest rfl (natAbs_codeInt_lt supported bounded)]
      revert code
      decide
  | bipolar =>
      simp only [Legal]
      revert code
      decide

def usesEveryCode : ElementType → Bool
  | binary | bipolar => true
  | ternary | float32 => false
  | unsigned bits => bits ≤ 24
  | signed bits => bits ≤ 25

theorem hasValue_of_usesEveryCode {type : ElementType} (every : type.usesEveryCode = true)
    (code : Nat) : type.hasValue code = true := by
  cases type with
  | binary | bipolar => rfl
  | ternary | float32 => simp [usesEveryCode] at every
  | unsigned bits | signed bits =>
      simp only [usesEveryCode, decide_eq_true_eq] at every
      simp [hasValue, every]

/-- The types whose integers single precision has all of. -/
def isExact : ElementType → Bool
  | unsigned bits => bits ≤ 24
  | signed bits => bits ≤ 25
  | _ => true

theorem nearest_of_fits {type : ElementType} (integral : type.isIntegral = true)
    (exact : type.isExact = true) {n : Int} (fits : type.Fits n) : nearest n = n := by
  apply nearest_of_le
  simp only [Fits] at fits
  cases type with
  | bipolar | float32 => simp [isIntegral] at integral
  | unsigned bits =>
      have cast : ((2 ^ bits : Nat) : Int) = 2 ^ bits := Int.natCast_pow 2 _
      have power : (2 : Nat) ^ bits ≤ 2 ^ 24 :=
        Nat.pow_le_pow_right (by decide) (of_decide_eq_true exact)
      simp only [isSigned, bitwidth, Bool.false_eq_true, ↓reduceIte] at fits
      omega
  | signed bits =>
      have narrow : bits ≤ 25 := of_decide_eq_true exact
      have cast : ((2 ^ (bits - 1) : Nat) : Int) = 2 ^ (bits - 1) := Int.natCast_pow 2 _
      have power : (2 : Nat) ^ (bits - 1) ≤ 2 ^ 24 := Nat.pow_le_pow_right (by decide) (by omega)
      simp only [isSigned, bitwidth, ↓reduceIte] at fits
      omega
  | binary | ternary =>
      simp only [isSigned, bitwidth, Bool.false_eq_true, ↓reduceIte] at fits
      omega

theorem fits_codeInt {type : ElementType} (positive : 0 < type.bitwidth) {code : Nat}
    (bounded : code < 2 ^ type.bitwidth) : type.Fits (type.codeInt code) := by
  have cast : ((2 ^ type.bitwidth : Nat) : Int) = 2 ^ type.bitwidth := Int.natCast_pow 2 _
  have double := two_pow_eq_double positive
  rw [Fits]
  cases sign : type.isSigned with
  | false =>
      simp only [codeInt, sign, Bool.false_and, Bool.false_eq_true, ↓reduceIte]
      omega
  | true =>
      simp only [↓reduceIte]
      by_cases upper : 2 ^ type.bitwidth ≤ 2 * code
      · rw [codeInt_of_upper sign upper]
        omega
      · rw [codeInt_of_lower (Nat.not_le.1 upper)]
        omega

theorem emod_codeInt (type : ElementType) {code : Nat} (bounded : code < 2 ^ type.bitwidth) :
    (type.codeInt code % (2 ^ type.bitwidth : Nat)).toNat = code := by
  have cast : ((2 ^ type.bitwidth : Nat) : Int) = 2 ^ type.bitwidth := Int.natCast_pow 2 _
  have same : type.codeInt code % 2 ^ type.bitwidth = code % 2 ^ type.bitwidth := by
    rw [codeInt]
    split
    · exact Int.sub_emod_right _ _
    · rfl
  rw [cast, same, Int.emod_eq_of_lt (by omega) (by omega), Int.toNat_natCast]

theorem elementCode_ofElementCode {type : ElementType} (supported : type.isSupported = true)
    (exact : type.isExact = true) {code : Nat} (bounded : code < 2 ^ type.storageBits) :
    type.elementCode (type.ofElementCode code) = code := by
  by_cases integral : type.isIntegral = true
  · have stored : type.storageBits = type.bitwidth := by
      cases type with
      | bipolar | float32 => simp [isIntegral] at integral
      | _ => rfl
    rw [stored] at bounded
    have fits := fits_codeInt (bitwidth_positive supported) bounded
    have found := Binary32.toInt?_ofInt (natAbs_codeInt_lt supported bounded)
    rw [nearest_of_fits integral exact fits] at found
    rw [ofElementCode_eq_ofInt integral,
      elementCode_eq_emod integral found (kept_of_fits (bitwidth_short supported) fits),
      emod_codeInt type bounded]
  · cases type with
    | float32 => exact Nat.mod_eq_of_lt bounded
    | bipolar =>
        revert code
        decide
    | _ => simp [isIntegral] at integral

end StreamWidth.ElementType
