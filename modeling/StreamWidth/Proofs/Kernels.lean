import StreamWidth.Converter.Hls
import StreamWidth.Dictionary.Lemmas
import StreamWidth.Proofs.Accounting
import StreamWidth.Proofs.Outcomes
import StreamWidth.Proofs.Tags

/-!
The numbers of generated kernels. The lines of a kernel tell which numbers it is given, and these are
the numbers that packing and unpacking go by, so the kernel reads and writes the words that they do.
-/

namespace StreamWidth

open BitStream (ofWords)
open Text (digitRun_toString)

theorem Text.toString_inj {first second : Nat} :
    toString first = toString second ↔ first = second := by
  constructor
  · intro same
    have read := (digitRun_toString first).value
    rwa [same, ← (digitRun_toString second).value] at read
  · rintro rfl
    rfl

namespace Shape

theorem not_mem_toString {c : Char} (other : c.isDigit = false) (n : Nat) :
    c ∉ (toString n).toList := by
  intro member
  rw [(digitRun_toString n).decimal c member] at other
  exact Bool.noConfusion other

theorem filter_listText {dims : List Nat} (nonempty : dims ≠ []) :
    (listText dims).toList.filter (· != ' ') =
      [','].intercalate (dims.map fun dim => (toString dim).toList) := by
  have digits (dim : Nat) : (toString dim).toList.filter (· != ' ') = (toString dim).toList := by
    rw [List.filter_eq_self]
    intro c member
    rw [bne_iff_ne]
    rintro rfl
    exact not_mem_toString (by decide) dim member
  induction dims with
  | nil => exact absurd rfl nonempty
  | cons dim rest ih =>
      cases rest with
      | nil => simpa [listText] using digits dim
      | cons next rest =>
          have cut : listText (dim :: next :: rest) =
              toString dim ++ ", " ++ listText (next :: rest) := String.intercalate_cons_cons
          have separator : ", ".toList.filter (· != ' ') = [','] := by decide
          rw [cut, String.toList_append, String.toList_append, List.filter_append,
            List.filter_append, digits, separator, ih (List.cons_ne_nil next rest),
            List.map_cons (l := next :: rest), List.intercalate_cons_of_ne_nil (by simp)]

theorem splitOn_listText {dims : List Nat} (nonempty : dims ≠ []) :
    ((listText dims).toList.filter (· != ' ')).splitOn ',' =
      dims.map fun dim => (toString dim).toList := by
  rw [filter_listText nonempty]
  refine List.splitOn_intercalate ',' (fun digits member => ?_) (by simpa using nonempty)
  obtain ⟨dim, _, rfl⟩ := List.mem_map.1 member
  exact not_mem_toString (by decide) dim

theorem listText_ne_empty {dims : List Nat} (nonempty : dims ≠ []) : listText dims ≠ "" := by
  intro empty
  have split : [[]] = dims.map fun dim => (toString dim).toList := by
    rw [← splitOn_listText nonempty, empty]
    rfl
  obtain ⟨dim, _, digitless⟩ := List.mem_map.1 (split ▸ List.mem_singleton_self [])
  exact (digitRun_toString dim).nonempty (String.toList_eq_nil_iff.1 digitless)

/-- The dimensions are told from their text. -/
theorem listText_inj {dims others : List Nat} : listText dims = listText others ↔ dims = others := by
  refine ⟨fun same => ?_, fun same => same ▸ rfl⟩
  by_cases empty : dims = []
  · subst empty
    exact Decidable.byContradiction fun differs => listText_ne_empty (Ne.symm differs) same.symm
  · by_cases noOthers : others = []
    · subst noOthers
      exact absurd same (listText_ne_empty empty)
    · have split := splitOn_listText empty
      rw [same, splitOn_listText noOthers] at split
      refine ((List.map_inj_right fun first second same => ?_).1 split).symm
      exact Text.toString_inj.1 (String.toList_inj.1 same)

end Shape

structure KernelNumbers where
  elementBits : Nat
  inWidth : Nat
  outWidth : Nat
  wordsCombined : Nat
  outputDims : List Nat
  deriving DecidableEq

def KernelParameters.numbers (parameters : KernelParameters) : KernelNumbers where
  elementBits := parameters.element.bitwidth
  inWidth := parameters.inWidth
  outWidth := parameters.outWidth
  wordsCombined := parameters.wordsCombined
  outputDims := parameters.outputDims

/-- All lines of a kernel in which numbers occur, with these numbers in their places. -/
structure KernelNumbers.Shown (numbers : KernelNumbers) (name hardwareType directory : String)
    (fragments : Dictionary (List String)) : Prop where
  defines : fragments.get? "$DEFINES$" = some
    ["#define InWidth " ++ toString numbers.inWidth ++ " ",
      "#define OutWidth " ++ toString numbers.outWidth ++ " ",
      "#define NumInWords " ++ toString numbers.wordsCombined ++ " ",
      "#define numReps 1"]
  reading : fragments.get? "$READNPYDATA$" = some
    ["npy2apintstream<ap_uint<" ++ toString numbers.inWidth ++ ">, " ++ hardwareType ++ ", " ++
      toString numbers.elementBits ++ ", float>(\"" ++ directory ++ "/input_0.npy\", in0);"]
  writing : fragments.get? "$DATAOUTSTREAM$" = some
    ["apintstream2npy<ap_uint<" ++ toString numbers.outWidth ++ ">, " ++ hardwareType ++ ", " ++
      toString numbers.elementBits ++ ", float>(out, \x7b" ++
      String.intercalate ", " (numbers.outputDims.map toString) ++ "\x7d, \"" ++ directory ++
      "/output.npy\");"]
  streams : fragments.get? "$STREAMDECLARATIONS$" = some
    ["hls::stream<ap_uint<" ++ toString numbers.inWidth ++ ">> in0 (\"in0\");",
      "hls::stream<ap_uint<" ++ toString numbers.outWidth ++ ">> out (\"out\");"]
  signature : fragments.get? "$BLACKBOXFUNCTION$" = some
    ["void " ++ name ++ "(hls::stream<ap_uint<" ++ toString numbers.inWidth ++
      "> > &in0, hls::stream<ap_uint<" ++ toString numbers.outWidth ++ "> > &out)"]

namespace KernelNumbers

variable {numbers others : KernelNumbers} {name hardwareType directory : String}
  {fragments : Dictionary (List String)}

theorem Shown.unique (shown : numbers.Shown name hardwareType directory fragments)
    (othersShown : others.Shown name hardwareType directory fragments) : others = numbers := by
  have defines := othersShown.defines.symm.trans shown.defines
  have reading := othersShown.reading.symm.trans shown.reading
  have writing := othersShown.writing.symm.trans shown.writing
  obtain ⟨bits, inWidth, outWidth, combined, dims⟩ := numbers
  obtain ⟨_, _, _, _, _⟩ := others
  simp only [Option.some.injEq, List.cons.injEq, String.append_left_inj, String.append_right_inj,
    Text.toString_inj, and_true] at defines
  obtain ⟨rfl, rfl, rfl⟩ := defines
  simp only [Option.some.injEq, List.cons.injEq, String.append_left_inj, String.append_right_inj,
    Text.toString_inj, and_true] at reading
  obtain rfl := reading
  simp only [Option.some.injEq, List.cons.injEq, String.append_left_inj, String.append_right_inj,
    and_true] at writing
  obtain rfl := Shape.listText_inj.1 writing
  rfl

end KernelNumbers

namespace Hls

variable (parameters : KernelParameters) (directory : String)

theorem get?_fragmentList :
    let fragments := Dictionary.ofList (fragmentList parameters directory)
    fragments.get? "$DEFINES$" = some (defines parameters) ∧
    fragments.get? "$READNPYDATA$" = some [readLine parameters directory] ∧
    fragments.get? "$DATAOUTSTREAM$" = some [writeLine parameters directory] ∧
    fragments.get? "$STREAMDECLARATIONS$" = some
      [streamLine parameters.inWidth "in0", streamLine parameters.outWidth "out"] ∧
    fragments.get? "$BLACKBOXFUNCTION$" = some [signatureLine parameters] := by
  simp [Dictionary.get?_ofList, fragmentList, Dictionary.lookup]

theorem shown_fragmentList :
    parameters.numbers.Shown parameters.name parameters.element.hardwareType directory
      (Dictionary.ofList (fragmentList parameters directory)) := by
  obtain ⟨defined, read, written, declared, signed⟩ := get?_fragmentList parameters directory
  refine ⟨defined.trans ?_, read.trans ?_, written.trans ?_, declared.trans ?_, signed.trans ?_⟩
  · rfl
  · unfold readLine transferTypes wordType KernelParameters.numbers
    simp [← String.toList_inj]
  · unfold writeLine transferTypes wordType braced Shape.listText KernelParameters.numbers
    simp [← String.toList_inj]
  · unfold streamLine wordType KernelParameters.numbers
    simp [← String.toList_inj]
  · unfold signatureLine wordType KernelParameters.numbers
    simp [← String.toList_inj]

end Hls

/-- The numbers of a kernel as what a converter packs at its input and unpacks at its output. -/
structure KernelNumbers.Fit (numbers : KernelNumbers) (converter : Converter) : Prop where
  elementBits : numbers.elementBits = converter.type.storageBits
  inWidth : numbers.inWidth = converter.width .input
  outWidth : numbers.outWidth = converter.width .output
  packed : ∀ tensor, converter.Takes tensor →
    ∃ words, tensor.pack (converter.width .input) = .ok words ∧
      (∀ word ∈ words, word.width = numbers.inWidth) ∧
      BitStream.numbers numbers.elementBits (ofWords words) =
        tensor.data.map converter.type.elementCode
  accepted : ∀ words,
    (∃ tensor, Tensor.unpack words converter.type (converter.width .output) converter.shape =
      .ok tensor) ↔
    words.length = Shape.product numbers.outputDims.dropLast ∧
      ∀ word ∈ words, word.width = numbers.outWidth
  unpacked : ∀ words tensor,
    Tensor.unpack words converter.type (converter.width .output) converter.shape = .ok tensor →
    tensor.data = (BitStream.numbers numbers.elementBits (ofWords words)).map
      converter.type.ofElementCode
  perWord : ∃ last, numbers.outputDims.getLast? = some last ∧
    last * numbers.elementBits = numbers.outWidth
  elements : Shape.product numbers.outputDims = converter.shape.elementCount
  words : converter.wordCount .output = .ok (Shape.product numbers.outputDims.dropLast)
  combined : numbers.inWidth ≤ numbers.outWidth →
    numbers.wordsCombined * numbers.inWidth = numbers.outWidth
  single : numbers.outWidth < numbers.inWidth → numbers.wordsCombined = 1

namespace Converter

variable (converter : Converter)

theorem pack_of_takes {tensor : Tensor} (takes : converter.Takes tensor) :
    ∃ words, tensor.pack (converter.width .input) = .ok words ∧
      (∀ word ∈ words, word.width = converter.width .input) ∧
      BitStream.numbers converter.type.storageBits (ofWords words) =
        tensor.data.map converter.type.elementCode := by
  have checked := (converter.takes_iff tensor).1 takes
  have sendable := sendable_of_checkInput checked
  obtain ⟨channels, folds⟩ := folds_of_checkInput checked .input
  refine ⟨_, sendable.pack_eq folds, fun word => BitStream.width_of_mem_toWords, ?_⟩
  rw [Tensor.ofWords_toWords_bits folds sendable.countable, ← takes.type,
    Tensor.numbers_bits folds.bitsPositive]

theorem exists_unpack_iff {expected : Nat} (counted : converter.wordCount .output = .ok expected)
    (words : List Word) :
    (∃ tensor, Tensor.unpack words converter.type (converter.width .output) converter.shape =
      .ok tensor) ↔
    words.length = expected ∧ ∀ word ∈ words, word.width = converter.width .output := by
  obtain ⟨channels, folds, count⟩ := converter.folds_wordCount .output
  obtain rfl := Except.ok.inj (count.symm.trans counted)
  constructor
  · rintro ⟨tensor, success⟩
    obtain ⟨enough, uniform, _⟩ :=
      (Tensor.unpack_eq_ok_iff converter.short folds words tensor).1 success
    exact ⟨enough, uniform⟩
  · rintro ⟨enough, uniform⟩
    exact Tensor.exists_unpack_eq_ok converter.short folds converter.countable words enough uniform

theorem data_of_unpack {words : List Word} {tensor : Tensor}
    (success : Tensor.unpack words converter.type (converter.width .output) converter.shape =
      .ok tensor) :
    tensor.data = (BitStream.numbers converter.type.storageBits (ofWords words)).map
      converter.type.ofElementCode := by
  obtain ⟨_, folds, _⟩ := converter.folds .output
  exact ((Tensor.unpack_eq_ok_iff converter.short folds words tensor).1 success).2.2.2.2

theorem wordsCombined_mul (widens : converter.width .input ≤ converter.width .output) :
    converter.wordsCombined * converter.width .input = converter.width .output := by
  rw [wordsCombined]
  split
  · exact Nat.div_mul_cancel (converter.width_dvd_of_le .input .output widens)
  · omega

theorem exists_kernelParameters : ∃ parameters, converter.kernelParameters = .ok parameters ∧
    parameters.name = converter.name ∧ parameters.element = converter.type.storage ∧
    parameters.numbers.Fit converter := by
  obtain ⟨folded, count, accounts⟩ := converter.exists_accounts .output
  obtain ⟨channels, folds, same⟩ := converter.folds .output
  have split := Except.ok.inj (accounts.folds.symm.trans same)
  have last : folded.dims.getLast? =
      some (converter.width .output / converter.type.storageBits) := by
    rw [split, Shape.splitLast]
    simp
  have counted : converter.wordCount .output = .ok (Shape.product folded.dims.dropLast) :=
    accounts.counts.trans (congrArg Except.ok accounts.words)
  refine ⟨_, by rw [kernelParameters, accounts.folds]; rfl, rfl, rfl, ?_⟩
  exact
    { elementBits := rfl
      inWidth := rfl
      outWidth := rfl
      packed := fun _ => converter.pack_of_takes
      accepted := converter.exists_unpack_iff counted
      unpacked := fun _ _ => converter.data_of_unpack
      perWord := ⟨_, last, folds.perWord_mul⟩
      elements := accounts.elements.trans converter.elementCount_eq_product.symm
      words := counted
      combined := converter.wordsCombined_mul
      single := fun narrows => if_neg (Nat.not_lt.2 (Nat.le_of_lt narrows)) }

end Converter

/-- The lines of a kernel can be written for every converter, they tell its numbers, and these fit
the words that the converter packs and unpacks. -/
theorem Hls.fragments_fit (converter : Converter) (directory : String) :
    ∃ fragments numbers, Hls.fragments converter directory = .ok fragments ∧
      (∀ others : KernelNumbers,
        others.Shown converter.name converter.type.storage.hardwareType directory fragments ↔
          others = numbers) ∧
      numbers.Fit converter := by
  obtain ⟨parameters, success, name, element, fit⟩ := converter.exists_kernelParameters
  have shown := shown_fragmentList parameters directory
  rw [name, element] at shown
  refine ⟨_, parameters.numbers, by rw [fragments, success]; rfl, fun others => ?_, fit⟩
  constructor
  · exact shown.unique
  · rintro rfl
    exact shown

example : (Hls.fragments Engine.sixIntegersConverter ".").toOption.bind (·.get? "$DEFINES$") =
    some ["#define InWidth 10 ", "#define OutWidth 30 ", "#define NumInWords 3 ",
      "#define numReps 1"] := by
  decide

end StreamWidth
