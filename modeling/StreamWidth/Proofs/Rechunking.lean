import StreamWidth.Proofs.Machine.Words
import StreamWidth.Proofs.RoundTrip

/-!
The converter block as a cut of the stream of bits. What comes out are the words of the output width
that carry the bits that went in, whenever there are such words; so what comes of several
conversions is told by the last width alone.
-/

namespace StreamWidth

def Word.storedBit (word : Word) (index : Nat) : Bool :=
  (word.bytes.getD (index / 8) 0).toNat.testBit (index % 8)

theorem Word.testBit_of_width_le {word : Word} {index : Nat} (beyond : word.width ≤ index) :
    word.value.testBit index = false :=
  Nat.testBit_lt_two_pow
    (Nat.lt_of_lt_of_le word.bounded (Nat.pow_le_pow_right (by decide) beyond))

theorem Word.storedBit_eq_testBit (word : Word) (index : Nat) :
    word.storedBit index = word.value.testBit index := by
  have small : index % 8 < 8 := Nat.mod_lt _ (by decide)
  have place : 8 * (index / 8) + index % 8 = index := Nat.div_add_mod _ _
  rw [storedBit, bytes, List.getD_eq_getElem?_getD, List.getElem?_map]
  by_cases stored : index / 8 < byteCount word.width
  · rw [List.getElem?_range stored, Option.map_some, Option.getD_some,
      Machine.Cells.testBit_ofNat _ small, Nat.testBit_shiftRight, place]
  · have beyond : word.width ≤ index := by
      rw [byteCount] at stored
      omega
    rw [List.getElem?_eq_none (by simpa using stored), testBit_of_width_le beyond]
    simp

namespace BitModel

open BitStream (ofWords toWords)

/-- A request that can be answered: words of the input width whose bits fill words of the output
width. -/
structure Convertible (request : SimulationRequest) : Prop where
  inPositive : 0 < request.inWidth
  outPositive : 0 < request.outWidth
  uniform : ∀ word ∈ request.words, word.width = request.inWidth
  whole : request.outWidth ∣ request.words.length * request.inWidth

/-- The words of the output width that carry the bits of the request and nothing beside them. -/
structure Rechunks (request : SimulationRequest) (output : List Word) : Prop where
  count : output.length = request.words.length * request.inWidth / request.outWidth
  uniform : ∀ word ∈ output, word.width = request.outWidth
  padding : ∀ word ∈ output, ∀ index, request.outWidth ≤ index → word.storedBit index = false
  stream : ofWords output = ofWords request.words

/-- What conversion to a width makes of a stream of bits, whatever words it came in. -/
def ofStream (width : Nat) (bits : List Bool) : SimulationResult :=
  if width = 0 then .error (.failed .zeroWidth)
  else if bitLimit ≤ bits.length then .error (.fault .integerOverflow)
  else if bits.length % width ≠ 0 then .error (.failed (.partialWord bits.length width))
  else .ok (toWords width bits)

section

variable {request : SimulationRequest}

theorem convert_eq_ofStream (inPositive : 0 < request.inWidth)
    (uniform : ∀ word ∈ request.words, word.width = request.inWidth) :
    convert request = ofStream request.outWidth (ofWords request.words) := by
  have length := BitStream.ofWords_length request.inWidth request.words uniform
  have accepted : request.words.find? (·.width != request.inWidth) = none := by
    apply List.find?_eq_none.2
    intro word member
    simp [uniform word member]
  rw [ofStream]
  by_cases zero : request.outWidth = 0
  · rw [convert, if_pos (Or.inr zero), if_pos zero]
  · rw [if_neg zero]
    by_cases whole : (ofWords request.words).length % request.outWidth = 0
    · rw [convert_of_whole request inPositive (Nat.pos_of_ne_zero zero) uniform
        (Nat.dvd_of_mod_eq_zero whole), if_neg (not_not_intro whole)]
      by_cases few : (ofWords request.words).length < bitLimit
      · rw [if_pos few, if_neg (Nat.not_le.2 few)]
      · rw [if_neg few, if_pos (Nat.not_lt.1 few)]
    · have positive : ¬(request.inWidth = 0 ∨ request.outWidth = 0) := by omega
      rw [convert, if_neg positive, accepted, length] at *
      simp only [whole, ne_eq, not_false_eq_true, ↓reduceIte]

theorem Convertible.convert_eq (convertible : Convertible request)
    (few : request.words.length * request.inWidth < bitLimit) :
    convert request = .ok (toWords request.outWidth (ofWords request.words)) := by
  obtain ⟨inPositive, outPositive, uniform, whole⟩ := convertible
  rw [← BitStream.ofWords_length request.inWidth request.words uniform] at few whole
  rw [convert_of_whole request inPositive outPositive uniform whole, if_pos few]

theorem convertible_of_convert {output : List Word} (converted : convert request = .ok output) :
    Convertible request := by
  rw [convert] at converted
  split at converted
  · simp at converted
  · rename_i positive
    split at converted
    · simp at converted
    · rename_i accepted
      have uniform : ∀ word ∈ request.words, word.width = request.inWidth := by
        intro word member
        simpa using List.find?_eq_none.1 accepted word member
      dsimp only at converted
      split at converted
      · simp at converted
      · split at converted
        · simp at converted
        · rename_i whole
          exact ⟨by omega, by omega, uniform, Nat.dvd_of_mod_eq_zero (by omega)⟩

theorem Convertible.rechunks_iff (convertible : Convertible request) (output : List Word) :
    Rechunks request output ↔ output = toWords request.outWidth (ofWords request.words) := by
  obtain ⟨inPositive, outPositive, uniform, whole⟩ := convertible
  have length := BitStream.ofWords_length request.inWidth request.words uniform
  constructor
  · intro rechunks
    rw [← rechunks.stream]
    exact (BitStream.toWords_ofWords _ outPositive output rechunks.uniform).symm
  · rintro rfl
    refine ⟨?_, fun word member => BitStream.width_of_mem_toWords member, ?_, ?_⟩
    · rw [BitStream.toWords_length, length]
    · intro word member index beyond
      rw [← BitStream.width_of_mem_toWords member] at beyond
      rw [word.storedBit_eq_testBit, Word.testBit_of_width_le beyond]
    · exact BitStream.ofWords_toWords _ _ (length ▸ whole)

/-- Conversion answers with the one list of words that carries the bits of the request. -/
theorem convert_eq_ok_iff (few : request.words.length * request.inWidth < bitLimit)
    (output : List Word) :
    convert request = .ok output ↔ Convertible request ∧ Rechunks request output := by
  constructor
  · intro converted
    have convertible := convertible_of_convert converted
    have same := (convertible.convert_eq few).symm.trans converted
    exact ⟨convertible, (convertible.rechunks_iff output).2 (Except.ok.inj same).symm⟩
  · rintro ⟨convertible, rechunks⟩
    rw [convertible.convert_eq few, (convertible.rechunks_iff output).1 rechunks]

theorem convert_convert {output : List Word} (converted : convert request = .ok output)
    (few : request.words.length * request.inWidth < bitLimit) (artifact : String)
    (width expected : Nat) :
    convert ⟨artifact, output, request.outWidth, width, expected⟩ =
      convert { request with outWidth := width } := by
  obtain ⟨convertible, rechunks⟩ := (convert_eq_ok_iff few output).1 converted
  have again : convert ⟨artifact, output, request.outWidth, width, expected⟩ =
      ofStream width (ofWords output) :=
    convert_eq_ofStream convertible.outPositive rechunks.uniform
  have direct : convert { request with outWidth := width } =
      ofStream width (ofWords request.words) :=
    convert_eq_ofStream convertible.inPositive convertible.uniform
  rw [again, direct, rechunks.stream]

theorem convert_same_width (inPositive : 0 < request.inWidth)
    (uniform : ∀ word ∈ request.words, word.width = request.inWidth)
    (few : request.words.length * request.inWidth < bitLimit) :
    convert { request with outWidth := request.inWidth } = .ok request.words := by
  have convertible : Convertible { request with outWidth := request.inWidth } :=
    ⟨inPositive, inPositive, uniform, Nat.dvd_mul_left _ _⟩
  rw [convertible.convert_eq few]
  exact congrArg Except.ok (BitStream.toWords_ofWords _ inPositive _ uniform)

end

theorem simulate_fst_of_isFile (world : World (Option Statistics)) (request : SimulationRequest)
    (present : world.files.isFile request.artifact = true) :
    (backend.simulate world request).1 = convert request := by
  rw [simulate_fst, run, if_pos present]

/-- A simulation of hardware that is there succeeds exactly on words of the input width whose bits
fill words of the output width, and answers with the one list of such words that carries them. What
the caller expects plays no part, and a simulation that fails leaves everything as it was. The
answer converted back is what went in, and converted on it is what one conversion makes of it. -/
theorem simulate_rechunks (world : World (Option Statistics)) (request : SimulationRequest)
    (present : world.files.isFile request.artifact = true)
    (few : request.words.length * request.inWidth < 2 ^ 64) :
    ((∃ output, (backend.simulate world request).1 = .ok output) ↔ Convertible request) ∧
    (∀ output, (backend.simulate world request).1 = .ok output ↔
      Convertible request ∧ Rechunks request output) ∧
    (∀ expected, backend.simulate world { request with expected } =
      backend.simulate world request) ∧
    (∀ failure, (backend.simulate world request).1 = .error failure →
      (backend.simulate world request).2 = world) ∧
    ∀ output, (backend.simulate world request).1 = .ok output →
      ∀ (other : World (Option Statistics)) artifact expected,
        other.files.isFile artifact = true →
          (backend.simulate other
              ⟨artifact, output, request.outWidth, request.inWidth, expected⟩).1 =
            .ok request.words ∧
          ∀ width,
            (backend.simulate other ⟨artifact, output, request.outWidth, width, expected⟩).1 =
              (backend.simulate world { request with outWidth := width }).1 := by
  have counted : request.words.length * request.inWidth < bitLimit := few
  rw [simulate_fst_of_isFile world request present]
  refine ⟨⟨fun ⟨output, converted⟩ => convertible_of_convert converted, fun convertible =>
    ⟨_, convertible.convert_eq counted⟩⟩, convert_eq_ok_iff counted, fun expected => ?_,
    fun failure refused => ?_, fun output converted other artifact expected otherPresent => ?_⟩
  · rfl
  · rw [simulate_of_error request present refused]
  · have convertible := convertible_of_convert converted
    have onward (width : Nat) :
        (backend.simulate other ⟨artifact, output, request.outWidth, width, expected⟩).1 =
          convert { request with outWidth := width } := by
      rw [simulate_fst_of_isFile other ⟨artifact, output, request.outWidth, width, expected⟩
        otherPresent, convert_convert converted counted artifact width expected]
    constructor
    · rw [onward, convert_same_width convertible.inPositive convertible.uniform counted]
    · intro width
      rw [onward, simulate_fst_of_isFile world { request with outWidth := width } present]

theorem convertible_twoWords : Convertible
    ⟨Path.artifact "." "dwc", [.ofNat 12 0xabc, .ofNat 12 0x123], 12, 8, 7⟩ :=
  ⟨by decide, by decide, by decide, by decide⟩

theorem simulate_rechunks_twoWords :
    (backend.simulate ⟨Tensor.builtFiles, none⟩
        ⟨Path.artifact "." "dwc", [.ofNat 12 0xabc, .ofNat 12 0x123], 12, 8, 7⟩).1 =
      .ok [.ofNat 8 0xbc, .ofNat 8 0x3a, .ofNat 8 0x12] :=
  ((simulate_rechunks ⟨Tensor.builtFiles, none⟩ _ Tensor.isFile_builtFiles (by decide)).2.1 _).2
    ⟨convertible_twoWords, (convertible_twoWords.rechunks_iff _).2 (by decide)⟩

end BitModel

end StreamWidth
