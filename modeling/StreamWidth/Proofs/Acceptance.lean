import StreamWidth.Proofs.Converters

/-!
Which attributes make a converter. One width divides the other, the narrower one carries whole
elements, and the innermost dimension fills whole words of the wider one; the other side then needs
no check of its own. Everything else is refused as a configuration.
-/

namespace StreamWidth

namespace Width

theorem checkRelation_eq_ok_iff (inWidth outWidth : Nat) :
    checkRelation inWidth outWidth = .ok () ↔
      0 < min inWidth outWidth ∧ min inWidth outWidth ∣ max inWidth outWidth := by
  rw [checkRelation]
  by_cases empty : inWidth = 0 ∨ outWidth = 0
  · rw [if_pos empty]
    simp only [reduceCtorEq, false_iff]
    omega
  · rw [if_neg empty]
    rcases Nat.lt_trichotomy inWidth outWidth with less | same | greater
    · rw [if_neg (by omega), Nat.min_eq_left (by omega), Nat.max_eq_right (by omega),
        Nat.dvd_iff_mod_eq_zero]
      by_cases divides : outWidth % inWidth = 0
      · simp [divides]
        omega
      · simp [divides, less]
    · subst same
      simp
      omega
    · rw [Nat.min_eq_right (by omega), Nat.max_eq_left (by omega), Nat.dvd_iff_mod_eq_zero]
      by_cases divides : inWidth % outWidth = 0
      · rw [if_neg (by omega), if_neg (by omega)]
        simp [divides]
        omega
      · simp [divides, greater]

theorem roundUp?_bytes_isSome_iff (width : Nat) :
    (roundUp? width Attributes.byteBits).isSome = true ↔ width ≤ 2 ^ 32 - 8 := by
  have greatest : limit = 2 ^ 32 := rfl
  rw [show Attributes.byteBits = 8 from rfl, roundUp?, if_neg (by decide)]
  by_cases fits : (width + 8 - 1) / 8 * 8 < limit
  · simp only [fits, ↓reduceIte, Option.isSome_some, true_iff]
    omega
  · simp only [fits, ↓reduceIte, Option.isSome_none, Bool.false_eq_true, false_iff]
    omega

end Width

def RefusesConfigurations {α : Type} (result : Except Failure α) : Prop :=
  (∃ value, result = .ok value) ∨ ∃ cause, result = .error (.configuration cause)

namespace RefusesConfigurations

variable {α β : Type}

theorem ok (value : α) : RefusesConfigurations (.ok value) :=
  Or.inl ⟨value, rfl⟩

theorem configuration (cause : ConfigurationError) :
    RefusesConfigurations (.error (.configuration cause) : Except Failure α) :=
  Or.inr ⟨cause, rfl⟩

theorem bind {first : Except Failure α} {next : α → Except Failure β}
    (firstRefuses : RefusesConfigurations first)
    (nextRefuses : ∀ value, RefusesConfigurations (next value)) :
    RefusesConfigurations (first >>= next) := by
  rcases firstRefuses with ⟨value, rfl⟩ | ⟨cause, rfl⟩
  · exact nextRefuses value
  · exact configuration cause

theorem ite {condition : Prop} [Decidable condition] {yes no : Except Failure α}
    (yesRefuses : RefusesConfigurations yes) (noRefuses : RefusesConfigurations no) :
    RefusesConfigurations (if condition then yes else no) := by
  split
  · exact yesRefuses
  · exact noRefuses

end RefusesConfigurations

theorem Width.checkRelation_refuses (inWidth outWidth : Nat) :
    RefusesConfigurations (checkRelation inWidth outWidth) :=
  .ite (.configuration _) (.ite (.configuration _) (.ite (.configuration _) (.ok _)))

theorem Shape.fold_refuses (shape : Shape) (width bits : Nat) :
    RefusesConfigurations (shape.fold width bits) := by
  rcases shape.fold_cases width bits with ⟨channels, _, success⟩ | ⟨_, refused⟩
  · exact Or.inl ⟨_, success⟩
  · exact Or.inr refused

namespace Attributes

variable (attributes : Attributes)

theorem foldedShape_refuses (side : Side) : RefusesConfigurations (attributes.foldedShape side) :=
  (Width.checkRelation_refuses _ _).bind fun _ => Shape.fold_refuses _ _ _

theorem check_refuses : RefusesConfigurations attributes.check := by
  have supported : RefusesConfigurations attributes.type.checkSupported :=
    .ite (.ok _) (.configuration _)
  have counted : RefusesConfigurations attributes.checkCount := .ite (.ok _) (.configuration _)
  have padded (side : Side) : RefusesConfigurations (attributes.checkPadding side) :=
    .ite (.ok _) (.configuration _)
  exact supported.bind fun _ => counted.bind fun _ => (padded .input).bind fun _ =>
    (padded .output).bind fun _ => (attributes.foldedShape_refuses .input).bind fun _ =>
      (attributes.foldedShape_refuses .output).bind fun _ => .ok ()

def narrower : Nat :=
  min attributes.inWidth attributes.outWidth

def wider : Nat :=
  max attributes.inWidth attributes.outWidth

def swapped : Attributes :=
  { attributes with inWidth := attributes.outWidth, outWidth := attributes.inWidth }

/-- A legal configuration. Of the two streams only the narrower one is asked about elements, and
only the wider one about channels. -/
structure Legal : Prop where
  supported : attributes.type.checkSupported = .ok ()
  countable : attributes.shape.exactCount? ≠ none
  ranked : 1 ≤ attributes.shape.rank
  positive : 0 < attributes.narrower
  related : attributes.narrower ∣ attributes.wider
  wholeElements : attributes.type.storageBits ∣ attributes.narrower
  paddable : attributes.wider ≤ 2 ^ 32 - 8
  wholeWords : ∃ channels, attributes.shape.lastDim? = some channels ∧
    attributes.wider / attributes.type.storageBits ∣ channels

theorem checkCount_eq_ok_iff :
    attributes.checkCount = .ok () ↔ attributes.shape.exactCount? ≠ none := by
  rw [checkCount, ← Option.isSome_iff_ne_none]
  split <;> simp_all

theorem checkPadding_eq_ok_iff (side : Side) :
    attributes.checkPadding side = .ok () ↔ attributes.width side ≤ 2 ^ 32 - 8 := by
  rw [checkPadding, ← Width.roundUp?_bytes_isSome_iff]
  split <;> simp_all

theorem foldedShape_eq_ok_iff (side : Side) (folded : Shape) :
    attributes.foldedShape side = .ok folded ↔
      0 < attributes.narrower ∧ attributes.narrower ∣ attributes.wider ∧
        attributes.shape.fold (attributes.width side) attributes.type.storageBits = .ok folded := by
  rw [foldedShape, bind_eq_ok_iff]
  constructor
  · rintro ⟨_, related, fold⟩
    obtain ⟨positive, divides⟩ := (Width.checkRelation_eq_ok_iff _ _).1 related
    exact ⟨positive, divides, fold⟩
  · rintro ⟨positive, divides, fold⟩
    exact ⟨(), (Width.checkRelation_eq_ok_iff _ _).2 ⟨positive, divides⟩, fold⟩

theorem forall_width_iff (property : Nat → Prop) :
    (∀ side, property (attributes.width side)) ↔
      property attributes.narrower ∧ property attributes.wider := by
  rw [Side.forall_iff, narrower, wider]
  show property attributes.inWidth ∧ property attributes.outWidth ↔ _
  rcases Nat.le_total attributes.inWidth attributes.outWidth with le | ge
  · rw [Nat.min_eq_left le, Nat.max_eq_right le]
  · rw [Nat.min_eq_right ge, Nat.max_eq_left ge, and_comm]

theorem forall_folds_iff :
    (∀ side, ∃ channels, Shape.Folds attributes.shape (attributes.width side)
      attributes.type.storageBits channels) ↔
    (∃ channels, Shape.Folds attributes.shape attributes.narrower attributes.type.storageBits
      channels) ∧
    ∃ channels, Shape.Folds attributes.shape attributes.wider attributes.type.storageBits channels :=
  attributes.forall_width_iff fun width =>
    ∃ channels, Shape.Folds attributes.shape width attributes.type.storageBits channels

theorem narrower_le_wider : attributes.narrower ≤ attributes.wider := by
  simp only [narrower, wider]
  omega

variable {attributes}

theorem Legal.width_positive (legal : attributes.Legal) (side : Side) : 0 < attributes.width side :=
  (attributes.forall_width_iff (0 < ·)).2
    ⟨legal.positive, Nat.lt_of_lt_of_le legal.positive attributes.narrower_le_wider⟩ side

theorem Legal.width_le (legal : attributes.Legal) (side : Side) :
    attributes.width side ≤ 2 ^ 32 - 8 :=
  (attributes.forall_width_iff (· ≤ 2 ^ 32 - 8)).2
    ⟨Nat.le_trans attributes.narrower_le_wider legal.paddable, legal.paddable⟩ side

theorem Legal.folds (legal : attributes.Legal) (side : Side) :
    ∃ channels, Shape.Folds attributes.shape (attributes.width side) attributes.type.storageBits
      channels := by
  obtain ⟨channels, innermost, whole⟩ := legal.wholeWords
  have wide : Shape.Folds attributes.shape attributes.wider attributes.type.storageBits channels :=
    ⟨Nat.lt_of_lt_of_le legal.positive attributes.narrower_le_wider,
      Nat.pos_of_dvd_of_pos legal.wholeElements legal.positive,
      Nat.dvd_trans legal.wholeElements legal.related, innermost, whole⟩
  -- What the wider stream folds, a stream whose width divides its own folds as well.
  have narrow := wide.of_dvd legal.related legal.wholeElements
  exact attributes.forall_folds_iff.2 ⟨⟨channels, narrow⟩, channels, wide⟩ side

theorem check_eq_ok_iff_legal : attributes.check = .ok () ↔ attributes.Legal := by
  rw [check_eq_ok_iff, checkCount_eq_ok_iff]
  simp only [checkPadding_eq_ok_iff, foldedShape_eq_ok_iff, Shape.fold_eq_ok_iff]
  constructor
  · rintro ⟨supported, countable, padded, folded⟩
    obtain ⟨_, positive, related, _⟩ := folded .input
    obtain ⟨⟨_, narrow⟩, channels, wide⟩ := attributes.forall_folds_iff.1 fun side => by
      obtain ⟨_, _, _, channels, folds, _⟩ := folded side
      exact ⟨channels, folds⟩
    exact {
      supported
      countable
      ranked := List.length_pos_iff.2 wide.dims_ne_nil
      positive
      related
      wholeElements := narrow.divides
      paddable := ((attributes.forall_width_iff (· ≤ 2 ^ 32 - 8)).1 padded).2
      wholeWords := ⟨channels, wide.innermost, wide.whole⟩ }
  · intro legal
    have padded := (attributes.forall_width_iff (· ≤ 2 ^ 32 - 8)).2
      ⟨Nat.le_trans attributes.narrower_le_wider legal.paddable, legal.paddable⟩
    refine ⟨legal.supported, legal.countable, padded, fun side => ?_⟩
    obtain ⟨channels, folds⟩ := legal.folds side
    exact ⟨_, legal.positive, legal.related, channels, folds, rfl⟩

theorem Legal.swapped (legal : attributes.Legal) : attributes.swapped.Legal := by
  have narrower : attributes.swapped.narrower = attributes.narrower := Nat.min_comm _ _
  have wider : attributes.swapped.wider = attributes.wider := Nat.max_comm _ _
  exact {
    supported := legal.supported
    countable := legal.countable
    ranked := legal.ranked
    positive := by rw [narrower]; exact legal.positive
    related := by rw [narrower, wider]; exact legal.related
    wholeElements := by rw [narrower]; exact legal.wholeElements
    paddable := by rw [wider]; exact legal.paddable
    wholeWords := by rw [wider]; exact legal.wholeWords }

theorem legal_swapped_iff : attributes.swapped.Legal ↔ attributes.Legal :=
  ⟨fun legal => legal.swapped, Legal.swapped⟩

end Attributes

namespace Converter

theorem new_eq_ok (signature : Signature) {attributes : Attributes}
    (accepted : attributes.check = .ok ()) :
    new signature attributes = .ok ⟨signature, attributes, accepted⟩ := by
  rw [new]
  split <;> simp_all

theorem check_of_new_eq_ok {signature : Signature} {attributes : Attributes} {converter : Converter}
    (made : new signature attributes = .ok converter) : attributes.check = .ok () := by
  rw [new] at made
  split at made
  · assumption
  · simp at made

theorem new_eq_error_iff (signature : Signature) {attributes : Attributes} {failure : Failure} :
    new signature attributes = .error failure ↔ attributes.check = .error failure := by
  rw [new]
  split <;> simp_all

/-- A converter is made of exactly the legal configurations, and of the same ones when its sides are
exchanged; everything else is refused as a configuration. -/
theorem new_accepts_legal (signature : Signature) (attributes : Attributes) :
    ((∃ converter, new signature attributes = .ok converter) ↔ attributes.Legal) ∧
    ((∃ converter, new signature attributes = .ok converter ∧ converter.signature = signature ∧
        converter.attributes = attributes) ∨
      ∃ cause, new signature attributes = .error (.configuration cause)) ∧
    ((∃ converter, new signature attributes.swapped = .ok converter) ↔
      ∃ converter, new signature attributes = .ok converter) := by
  have accepts (attributes : Attributes) :
      (∃ converter, new signature attributes = .ok converter) ↔ attributes.Legal := by
    rw [← Attributes.check_eq_ok_iff_legal]
    exact ⟨fun ⟨_, made⟩ => check_of_new_eq_ok made, fun accepted => ⟨_, new_eq_ok _ accepted⟩⟩
  refine ⟨accepts attributes, ?_, ?_⟩
  · rcases attributes.check_refuses with ⟨_, accepted⟩ | ⟨cause, refused⟩
    · exact Or.inl ⟨_, new_eq_ok signature accepted, rfl, rfl⟩
    · refine Or.inr ⟨cause, ?_⟩
      rw [new]
      split <;> simp_all
  · rw [accepts, accepts, Attributes.legal_swapped_iff]

end Converter

end StreamWidth
