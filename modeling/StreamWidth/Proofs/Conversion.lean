import StreamWidth.Proofs.Words
import StreamWidth.Simulation.BitModel

/-!
The converter block cuts its input anew: whatever the two widths are, the words that come out carry
the bits that went in, in their order.
-/

namespace StreamWidth.BitModel

open BitStream (lowBits ofWord ofWords toWords)

/-- The bits that a collector has taken in are those of its complete words, in their order, and the
low ones of the word that is being filled. -/
structure Collector.Holds (width : Nat) (collector : Collector) (taken : List Bool) : Prop where
  complete : ∀ word ∈ collector.complete, word.width = width
  current : collector.current.width = width
  room : collector.fill < width
  bits : ofWords collector.complete.reverse ++ lowBits collector.fill collector.current.value = taken

namespace Collector

variable {width : Nat}

theorem empty_holds (positive : 0 < width) : Holds width (empty width) [] :=
  ⟨by simp [empty], rfl, positive, rfl⟩

theorem take_holds {collector : Collector} {taken : List Bool}
    (holds : Holds width collector taken) (bit : Bool) :
    ∃ next, collector.take width bit = .ok next ∧ Holds width next (taken ++ [bit]) := by
  obtain ⟨written, success, sameWidth, value⟩ := collector.current.setBit_of_lt collector.fill bit
    (by rw [holds.current]; exact holds.room)
  have low : lowBits (collector.fill + 1) written.value =
      lowBits collector.fill collector.current.value ++ [bit] := by
    simp only [lowBits, List.range_succ, List.map_append, List.map_cons, List.map_nil]
    congr 1
    · apply List.map_congr_left
      intro position inside
      have below : position < collector.fill := List.mem_range.1 inside
      rw [value, if_neg (by omega)]
    · rw [value, if_pos rfl]
  have writtenWidth : written.width = width := sameWidth.trans holds.current
  rw [take, success, ← holds.bits]
  by_cases full : collector.fill + 1 = width
  · refine ⟨⟨written :: collector.complete, .zero width, 0⟩, by simp [bind, Except.bind, full, pure,
      Except.pure], ?_, rfl, by simp only; omega, ?_⟩
    · intro word member
      rcases List.mem_cons.1 member with same | earlier
      · rw [same, writtenWidth]
      · exact holds.complete word earlier
    · have whole : ofWord written = lowBits (collector.fill + 1) written.value := by
        rw [ofWord, writtenWidth, full]
      have fresh : lowBits 0 (Word.zero width).value = [] := rfl
      simp [ofWords, whole, low, fresh]
  · have room := holds.room
    refine ⟨⟨collector.complete, written, collector.fill + 1⟩, by simp [bind, Except.bind, full, pure,
      Except.pure], holds.complete, writtenWidth, by simp only; omega, ?_⟩
    rw [low, List.append_assoc]

theorem foldlM_holds {α : Type} {step : Collector → α → Except Failure Collector}
    {bits : α → List Bool} (items : List α)
    (each : ∀ item ∈ items, ∀ collector taken, Holds width collector taken →
      ∃ next, step collector item = .ok next ∧ Holds width next (taken ++ bits item)) :
    ∀ collector taken, Holds width collector taken →
      ∃ last, items.foldlM step collector = .ok last ∧
        Holds width last (taken ++ (items.map bits).flatten) := by
  induction items with
  | nil =>
      intro collector taken holds
      exact ⟨collector, rfl, by simpa using holds⟩
  | cons item rest ih =>
      intro collector taken holds
      obtain ⟨next, success, nextHolds⟩ := each item List.mem_cons_self collector taken holds
      obtain ⟨last, finished, lastHolds⟩ := ih
        (fun other member => each other (List.mem_cons_of_mem _ member)) next _ nextHolds
      refine ⟨last, ?_, ?_⟩
      · rw [List.foldlM_cons, success]
        exact finished
      · rw [List.map_cons, List.flatten_cons, ← List.append_assoc]
        exact lastHolds

theorem takeWord_holds {collector : Collector} {taken : List Bool}
    (holds : Holds width collector taken) (word : Word) :
    ∃ next, takeWord width word.width collector word = .ok next ∧
      Holds width next (taken ++ ofWord word) := by
  have each : ∀ index ∈ List.range word.width, ∀ collector taken, Holds width collector taken →
      ∃ next, (do collector.take width (← word.bit index)) = Except.ok next ∧
        Holds width next (taken ++ [word.value.testBit index]) := by
    intro index member collector taken holds
    rw [word.bit_of_lt index (List.mem_range.1 member)]
    exact take_holds holds _
  obtain ⟨next, success, nextHolds⟩ := foldlM_holds _ each collector taken holds
  refine ⟨next, success, ?_⟩
  have same : ((List.range word.width).map fun index => [word.value.testBit index]).flatten =
      ofWord word := by
    rw [← List.flatMap_def, ← List.map_eq_flatMap]
    rfl
  rwa [same] at nextHolds

end Collector

theorem collect_eq_toWords (request : SimulationRequest) (positive : 0 < request.outWidth)
    (uniform : ∀ word ∈ request.words, word.width = request.inWidth)
    (whole : request.outWidth ∣ (ofWords request.words).length) :
    collect request = .ok (toWords request.outWidth (ofWords request.words)) := by
  have each : ∀ word ∈ request.words, ∀ collector taken,
      Collector.Holds request.outWidth collector taken →
      ∃ next, Collector.takeWord request.outWidth request.inWidth collector word = .ok next ∧
        Collector.Holds request.outWidth next (taken ++ ofWord word) := by
    intro word member collector taken holds
    rw [← uniform word member]
    exact Collector.takeWord_holds holds word
  obtain ⟨last, success, holds⟩ :=
    Collector.foldlM_holds request.words each _ [] (Collector.empty_holds positive)
  have complete : ∀ word ∈ last.complete.reverse, word.width = request.outWidth :=
    fun word member => holds.complete word (List.mem_reverse.1 member)
  have bits : ofWords last.complete.reverse ++ lowBits last.fill last.current.value =
      ofWords request.words := by
    rw [holds.bits, List.nil_append]
    rfl
  -- The stream ends with a word, so the last one is full and nothing of the next has come.
  have empty : last.fill = 0 := by
    have count := congrArg List.length bits
    rw [List.length_append, BitStream.ofWords_length _ _ complete, BitStream.lowBits_length] at count
    have rest : request.outWidth ∣ last.fill := by
      rw [← count] at whole
      exact (Nat.dvd_add_right (Nat.dvd_mul_left _ _)).1 whole
    exact Nat.eq_zero_of_dvd_of_lt rest holds.room
  have stream : ofWords last.complete.reverse = ofWords request.words := by
    rw [← bits, empty]
    simp [lowBits]
  rw [collect, success, ← stream, BitStream.toWords_ofWords _ positive _ complete]
  rfl

/-- Words of the input width whose bits fill words of the output width are converted, unless there
are too many to be counted. -/
theorem convert_of_whole (request : SimulationRequest) (inPositive : 0 < request.inWidth)
    (outPositive : 0 < request.outWidth)
    (uniform : ∀ word ∈ request.words, word.width = request.inWidth)
    (whole : request.outWidth ∣ (ofWords request.words).length) :
    convert request =
      if (ofWords request.words).length < bitLimit then
        .ok (toWords request.outWidth (ofWords request.words))
      else .error (.fault .integerOverflow) := by
  have positive : ¬(request.inWidth = 0 ∨ request.outWidth = 0) := by omega
  have accepted : request.words.find? (·.width != request.inWidth) = none := by
    apply List.find?_eq_none.2
    intro word member
    simp [uniform word member]
  have length := BitStream.ofWords_length request.inWidth request.words uniform
  have collected := collect_eq_toWords request outPositive uniform whole
  rw [convert, if_neg positive, accepted]
  rw [length] at whole ⊢
  by_cases few : request.words.length * request.inWidth < bitLimit
  · simp only [if_neg (Nat.not_le.2 few), if_pos few, Nat.mod_eq_zero_of_dvd whole, ne_eq,
      not_true_eq_false, ↓reduceIte, collected]
    rfl
  · simp only [if_pos (Nat.not_lt.1 few), if_neg few]

theorem simulate_of_convert {world : World (Option Statistics)} (request : SimulationRequest)
    {words : List Word} (present : world.files.isFile request.artifact = true)
    (converted : convert request = .ok words) :
    backend.simulate world request =
      (.ok words, ⟨world.files, some (statistics request.words.length words.length)⟩) := by
  simp only [backend, run, present, converted, ↓reduceIte]

theorem simulate_of_error {world : World (Option Statistics)} (request : SimulationRequest)
    {failure : SimulationError} (present : world.files.isFile request.artifact = true)
    (refused : convert request = .error failure) :
    backend.simulate world request = (.error failure, world) := by
  simp only [backend, run, present, refused, ↓reduceIte]

theorem simulate_fst (world : World (Option Statistics)) (request : SimulationRequest) :
    (backend.simulate world request).1 = run world.files request := by
  simp only [backend]
  split
  · rename_i delivered
    exact delivered.symm
  · rename_i refused
    exact refused.symm

end StreamWidth.BitModel
