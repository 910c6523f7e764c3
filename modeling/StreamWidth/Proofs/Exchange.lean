import StreamWidth.Proofs.Files
import StreamWidth.Proofs.Hexadecimal
import StreamWidth.Proofs.RoundTrip
import StreamWidth.Simulation.Exchange

/-!
Exchanges with another program. The program finds the words of a request as lines of text. Whatever
it leaves behind, the result is told from its status first, and then it is the words that the lines
of its output spell, none added and none left out.
-/

namespace StreamWidth

namespace Text

/-- The lines of a text: what lies between its newlines. -/
structure IsLines (text : String) (lines : List (List Char)) : Prop where
  nonempty : lines ≠ []
  single : ∀ line ∈ lines, '\n' ∉ line
  whole : text.toList = ['\n'].intercalate lines

def filled (lines : List (List Char)) : List (List Char) :=
  (lines.map trimChars).filter (· ≠ [])

theorem IsLines.eq {text : String} {lines : List (List Char)} (isLines : IsLines text lines) :
    Text.lines text.toList = lines := by
  rw [Text.lines, pieces_eq_splitOn, isLines.whole]
  exact List.splitOn_intercalate '\n' isLines.single isLines.nonempty

theorem not_mem_of_mem_pieces (separator : Char) (text : List Char) :
    ∀ piece ∈ pieces separator text, separator ∉ piece := by
  induction text with
  | nil => simp [pieces]
  | cons c rest ih =>
      rw [pieces]
      split
      · exact List.forall_mem_cons.2 ⟨List.not_mem_nil, ih⟩
      · rename_i other
        cases found : pieces separator rest with
        | nil => simpa [prependToFirst] using Ne.symm other
        | cons piece others =>
            rw [found] at ih
            obtain ⟨here, behind⟩ := List.forall_mem_cons.1 ih
            exact List.forall_mem_cons.2 ⟨by simp [here, Ne.symm other], behind⟩

theorem isLines_lines (text : String) : IsLines text (Text.lines text.toList) where
  nonempty := by simp [Text.lines, pieces_eq_splitOn]
  single := not_mem_of_mem_pieces '\n' text.toList
  whole := by rw [Text.lines, pieces_eq_splitOn, List.intercalate_splitOn]

theorem IsLines.wordLines {text : String} {lines : List (List Char)} (isLines : IsLines text lines) :
    Exchange.wordLines text = filled lines := by
  rw [Exchange.wordLines, isLines.eq, filled]
  congr 1
  funext line
  cases line <;> rfl

theorem toList_unlines (texts : List String) :
    (unlines texts).toList = ['\n'].intercalate (texts.map String.toList ++ [[]]) := by
  rw [unlines, String.toList_ofList]
  induction texts with
  | nil => rfl
  | cons text rest ih =>
      rw [List.flatMap_cons, List.map_cons, List.cons_append,
        List.intercalate_cons_of_ne_nil (by simp), ih]

theorem isLines_unlines (texts : List String) (single : ∀ text ∈ texts, '\n' ∉ text.toList) :
    IsLines (unlines texts) (texts.map String.toList ++ [[]]) where
  nonempty := by simp
  single line member := by
    rcases List.mem_append.1 member with written | last
    · obtain ⟨text, present, rfl⟩ := List.mem_map.1 written
      exact single text present
    · simp [List.mem_singleton.1 last]
  whole := toList_unlines texts

end Text

namespace Word

theorem solid_hexText {word : Word} : ∀ c ∈ word.hexText.toList, Text.isBlank c = false := by
  rw [hexText, String.toList_ofList, List.forall_mem_cons, List.forall_mem_cons]
  exact ⟨by decide, by decide, fun c member => Text.isBlank_of_isHexDigit (mem_hexDigits member).2⟩

theorem trimChars_hexText (word : Word) : Text.trimChars word.hexText.toList = word.hexText.toList := by
  have nonempty : word.hexText.toList ≠ [] := by simp [hexText]
  have bare : word.hexText.toList = [] ++ (word.hexText.toList ++ []) := by simp
  exact (congrArg Text.trimChars bare).trans (Text.trimChars_append nonempty (List.forall_mem_nil _)
    solid_hexText (List.forall_mem_nil _))

end Word

namespace FileTree

theorem readText_eq_ok_iff {files : FileTree} {path text : String} :
    files.readText path = .ok text ↔ files.read path = .ok text.toUTF8 := by
  rw [readText, bind_eq_ok_iff]
  constructor
  · rintro ⟨bytes, held, decoded⟩
    rw [held]
    split at decoded
    · rename_i same known
      obtain rfl := Except.ok.inj decoded
      rw [String.fromUTF8?] at known
      split at known
      · exact congrArg (fun text => Except.ok text.toUTF8) (Option.some.inj known)
      · simp at known
    · simp [throw, throwThe, MonadExceptOf.throw] at decoded
  · intro held
    have valid : text.toUTF8.IsValidUTF8 := text.isValidUTF8
    refine ⟨_, held, ?_⟩
    rw [String.fromUTF8?, dif_pos valid]
    rfl

end FileTree

namespace Exchange

/-- The words of lines are read in order, and up to the first line that is no word. -/
theorem readLines_eq_ok_iff (width : Nat) (lines : List (List Char)) : ∀ (number : Nat)
    (words : List Word), readLines width number lines = .ok words ↔
      lines.mapM (Word.ofHex? width) = some words := by
  induction lines with
  | nil => simp [readLines]
  | cons line rest ih =>
      intro number words
      rw [readLines, List.mapM_cons]
      cases Word.ofHex? width line with
      | none => simp
      | some word =>
          have mapped (result : SimulationResult) : result.map (word :: ·) = .ok words ↔
              ∃ others, result = .ok others ∧ word :: others = words := by
            cases result <;> simp [Except.map]
          simp only [mapped, ih]
          simp [Option.bind_eq_some_iff]

theorem readLines_eq_error_iff (width : Nat) (lines : List (List Char)) : ∀ (number : Nat)
    (failure : SimulationError), readLines width number lines = .error failure ↔
      ∃ before line after, lines = before ++ line :: after ∧
        (∀ earlier ∈ before, Word.ofHex? width earlier ≠ none) ∧ Word.ofHex? width line = none ∧
        failure = .failed (.outputLine (number + before.length) width (String.ofList line)) := by
  induction lines with
  | nil => simp [readLines]
  | cons line rest ih =>
      intro number failure
      rw [readLines]
      cases read : Word.ofHex? width line with
      | none =>
          constructor
          · intro refused
            exact ⟨[], line, rest, rfl, List.forall_mem_nil _, read, (Except.error.inj refused).symm⟩
          · rintro ⟨before, found, after, same, accepted, _, rfl⟩
            -- The lines before the one that is reported are words, so there are none.
            cases before with
            | nil =>
                obtain ⟨rfl, rfl⟩ := List.cons.inj same
                rfl
            | cons first others =>
                obtain ⟨rfl, _⟩ := List.cons.inj same
                exact absurd read (accepted line List.mem_cons_self)
      | some word =>
          have mapped (result : SimulationResult) :
              result.map (word :: ·) = .error failure ↔ result = .error failure := by
            cases result <;> simp [Except.map]
          simp only [mapped, ih]
          constructor
          · rintro ⟨before, found, after, rfl, accepted, refused, rfl⟩
            refine ⟨line :: before, found, after, rfl,
              List.forall_mem_cons.2 ⟨by simp [read], accepted⟩, refused, ?_⟩
            rw [List.length_cons, Nat.add_assoc, Nat.add_comm 1]
          · rintro ⟨before, found, after, same, accepted, refused, rfl⟩
            cases before with
            | nil =>
                obtain ⟨rfl, _⟩ := List.cons.inj same
                rw [read] at refused
                simp at refused
            | cons first others =>
                obtain ⟨rfl, rfl⟩ := List.cons.inj same
                refine ⟨others, found, after, rfl, (List.forall_mem_cons.1 accepted).2, refused, ?_⟩
                rw [List.length_cons, Nat.add_assoc, Nat.add_comm 1]

theorem mapM_ofHex? {width : Nat} {lines : List (List Char)} : ∀ {words : List Word},
    lines.mapM (Word.ofHex? width) = some words →
      (∀ word ∈ words, word.width = width) ∧ ∀ line ∈ lines, Word.ofHex? width line ≠ none := by
  induction lines with
  | nil =>
      intro words read
      obtain rfl := Option.some.inj read
      simp
  | cons line rest ih =>
      intro words read
      rw [List.mapM_cons] at read
      obtain ⟨word, first, read⟩ := Option.bind_eq_some_iff.1 read
      obtain ⟨others, second, same⟩ := Option.bind_eq_some_iff.1 read
      obtain rfl := Option.some.inj same
      obtain ⟨widths, accepted⟩ := ih second
      have width := ((Word.ofHex?_eq_some_iff _ _ word).1 first).1
      exact ⟨List.forall_mem_cons.2 ⟨width, widths⟩,
        List.forall_mem_cons.2 ⟨by simp [first], accepted⟩⟩

theorem failed_of_readLines {width number : Nat} {lines : List (List Char)}
    {failure : SimulationError} (refused : readLines width number lines = .error failure) :
    ∃ cause, failure = .failed cause := by
  obtain ⟨_, _, _, _, _, _, same⟩ := (readLines_eq_error_iff _ _ _ _).1 refused
  exact ⟨_, same⟩

theorem readLines_refused_iff (width number : Nat) (lines : List (List Char)) :
    (∃ cause, readLines width number lines = .error (.failed cause)) ↔
      ∃ line ∈ lines, Word.ofHex? width line = none := by
  constructor
  · rintro ⟨cause, refused⟩
    obtain ⟨before, line, after, rfl, _, wrong, _⟩ :=
      (readLines_eq_error_iff width lines number _).1 refused
    exact ⟨line, by simp, wrong⟩
  · rintro ⟨line, member, wrong⟩
    cases read : readLines width number lines with
    | ok words =>
        have accepted := (mapM_ofHex? ((readLines_eq_ok_iff width lines number words).1 read)).2
        exact absurd wrong (accepted line member)
    | error failure =>
        obtain ⟨cause, rfl⟩ := failed_of_readLines read
        exact ⟨cause, rfl⟩

section

variable (exchange : Exchange) (request : SimulationRequest) {ending : Ending}

theorem outcome_of_text (ended : ending.status = some 0) {text : String}
    (held : ending.files.read exchange.outputFile = .ok text.toUTF8) :
    exchange.outcome request ending = readLines request.outWidth 1 (wordLines text) := by
  rw [outcome, ended, FileTree.readText_eq_ok_iff.2 held]
  rfl

theorem outcome_of_unread (ended : ending.status = some 0)
    (unread : ∀ text : String, ending.files.read exchange.outputFile ≠ .ok text.toUTF8) :
    ∃ message, exchange.outcome request ending = .error (.io message) := by
  rw [outcome, ended]
  cases read : ending.files.readText exchange.outputFile with
  | error failure => exact ⟨failure.message, rfl⟩
  | ok text => exact absurd (FileTree.readText_eq_ok_iff.1 read) (unread text)

theorem outcome_of_zero (ended : ending.status = some 0) :
    (∃ message, exchange.outcome request ending = .error (.io message)) ∨
      ∃ text, exchange.outcome request ending = readLines request.outWidth 1 (wordLines text) := by
  by_cases unread : ∀ text : String, ending.files.read exchange.outputFile ≠ .ok text.toUTF8
  · exact Or.inl (exchange.outcome_of_unread request ended unread)
  · obtain ⟨text, held⟩ := Classical.not_forall.1 unread
    exact Or.inr ⟨text, exchange.outcome_of_text request ended (Classical.not_not.1 held)⟩

theorem outcome_of_missing (ended : ending.status = some 66) :
    exchange.outcome request ending = .error (.artifactMissing request.artifact) := by
  rw [outcome, ended]
  rfl

theorem outcome_of_failed (other : ending.status ≠ some 0) (present : ending.status ≠ some 66) :
    exchange.outcome request ending = .error (.failed (.exited exchange.program ending.status
      (String.ofList (Text.trimChars (Text.decodeLossy ending.errors.toList))))) := by
  rw [outcome]
  split
  · rename_i ended
    exact absurd ended other
  · exact if_neg present

theorem ioError_eq_ok_iff {α : Type} {result : Except FileError α} {value : α} :
    ioError result = .ok value ↔ result = .ok value := by
  cases result with
  | error failure => exact ⟨nofun, nofun⟩
  | ok found =>
      exact ⟨fun same => congrArg Except.ok (Except.ok.inj same), fun same =>
        congrArg Except.ok (Except.ok.inj same)⟩

theorem read_of_prepare {files staged : FileTree} {words : List Word}
    (prepared : exchange.prepare files words = .ok staged)
    (file : staged.isFile exchange.inputFile = true) :
    staged.read exchange.inputFile = .ok (inputText words).toUTF8 := by
  obtain ⟨directories, _, written⟩ := bind_eq_ok_iff.1 prepared
  exact FileTree.read_write (ioError_eq_ok_iff.1 written) file

theorem run_eq_outcome {launch : Launcher} {world : World Unit} {staged : FileTree}
    (present : world.files.isFile request.artifact = true)
    (prepared : exchange.prepare world.files request.words = .ok staged)
    (launched : launch staged (exchange.invocation request) = .ok ending) :
    (exchange.run launch world request).1 = exchange.outcome request ending := by
  simp only [run, if_pos present, prepared, exchangeFiles, launched]

end

theorem wordLines_inputText (words : List Word) :
    wordLines (inputText words) = words.map fun word => word.hexText.toList := by
  have single : ∀ text ∈ words.map Word.hexText, '\n' ∉ text.toList := by
    intro text member broken
    obtain ⟨word, _, rfl⟩ := List.mem_map.1 member
    exact absurd (Word.solid_hexText '\n' broken) (by decide)
  have bare : ((words.map Word.hexText).map String.toList).map Text.trimChars =
      words.map fun word => word.hexText.toList := by
    rw [List.map_map, List.map_map]
    refine List.map_congr_left fun word _ => ?_
    rw [Function.comp_apply, Function.comp_apply, word.trimChars_hexText]
  have last : ([[]] : List (List Char)).map Text.trimChars = [[]] := rfl
  rw [inputText, (Text.isLines_unlines _ single).wordLines, Text.filled, List.map_append, bare, last,
    List.filter_append, List.filter_eq_self.2]
  · simp
  · intro line member
    obtain ⟨word, _, rfl⟩ := List.mem_map.1 member
    simp [Word.hexText]

theorem readLines_inputText {width : Nat} (positive : 0 < width) (words : List Word)
    (uniform : ∀ word ∈ words, word.width = width) :
    readLines width 1 (wordLines (inputText words)) = .ok words := by
  rw [readLines_eq_ok_iff, wordLines_inputText]
  induction words with
  | nil => rfl
  | cons word rest ih =>
      obtain ⟨rfl, others⟩ := List.forall_mem_cons.1 uniform
      rw [List.map_cons, List.mapM_cons, Word.ofHex?_hexText positive, ih others]
      rfl

/-- A result as the status of a program and its output lead to it: the status decides first, and
after zero the output, of which every line with something in it must be a word. -/
structure Decodes (exchange : Exchange) (request : SimulationRequest) (ending : Ending)
    (result : SimulationResult) : Prop where
  missing : (∃ artifact, result = .error (.artifactMissing artifact)) ↔ ending.status = some 66
  failed : ending.status ≠ some 0 → ending.status ≠ some 66 →
    ∃ errors, result = .error (.failed (.exited exchange.program ending.status errors))
  unread : ending.status = some 0 → ((∃ message, result = .error (.io message)) ↔
    ∀ text : String, ending.files.read exchange.outputFile ≠ .ok text.toUTF8)
  read : ending.status = some 0 → ∀ text : String,
    ending.files.read exchange.outputFile = .ok text.toUTF8 →
    ∃ lines, Text.IsLines text lines ∧
      ((∃ cause, result = .error (.failed cause)) ↔
        ∃ line ∈ Text.filled lines, Word.ofHex? request.outWidth line = none) ∧
      ∀ words, result = .ok words ↔
        (Text.filled lines).mapM (Word.ofHex? request.outWidth) = some words
  widths : ∀ words, result = .ok words → ∀ word ∈ words, word.width = request.outWidth

theorem outcome_decodes (exchange : Exchange) (request : SimulationRequest) (ending : Ending) :
    exchange.Decodes request ending (exchange.outcome request ending) := by
  constructor
  · constructor
    · rintro ⟨artifact, missing⟩
      by_cases ended : ending.status = some 0
      · rcases exchange.outcome_of_zero request ended with ⟨_, unread⟩ | ⟨text, read⟩
        · simp [unread] at missing
        · obtain ⟨_, same⟩ := failed_of_readLines (read.symm.trans missing)
          simp at same
      · refine Decidable.byContradiction fun other => ?_
        rw [exchange.outcome_of_failed request ended other] at missing
        simp at missing
    · exact fun absent => ⟨_, exchange.outcome_of_missing request absent⟩
  · exact fun other present => ⟨_, exchange.outcome_of_failed request other present⟩
  · intro ended
    constructor
    · rintro ⟨message, refused⟩ text held
      rw [exchange.outcome_of_text request ended held] at refused
      obtain ⟨_, same⟩ := failed_of_readLines refused
      simp at same
    · exact exchange.outcome_of_unread request ended
  · intro ended text held
    rw [exchange.outcome_of_text request ended held, (Text.isLines_lines text).wordLines]
    exact ⟨_, Text.isLines_lines text, readLines_refused_iff _ _ _, readLines_eq_ok_iff _ _ _⟩
  · intro words delivered
    by_cases ended : ending.status = some 0
    · rcases exchange.outcome_of_zero request ended with ⟨_, unread⟩ | ⟨text, read⟩
      · simp [unread] at delivered
      · exact (mapM_ofHex? ((readLines_eq_ok_iff _ _ _ _).1 (read.symm.trans delivered))).1
    · by_cases absent : ending.status = some 66
      · simp [exchange.outcome_of_missing request absent] at delivered
      · simp [exchange.outcome_of_failed request ended absent] at delivered

/-- What another program finds and what becomes of what it leaves: it finds the words a line each,
and the result is what its status and its output lead to. A program that copies its input leaves the
words that it was given. -/
theorem run_decodes (exchange : Exchange) (launch : Launcher) (world : World Unit)
    (request : SimulationRequest) (staged : FileTree) (ending : Ending)
    (present : world.files.isFile request.artifact = true)
    (prepared : exchange.prepare world.files request.words = .ok staged)
    (launched : launch staged (exchange.invocation request) = .ok ending) :
    (staged.isFile exchange.inputFile = true →
      ∃ text : String, staged.read exchange.inputFile = .ok text.toUTF8 ∧
        text.toList = (request.words.map fun word => word.hexText.toList ++ ['\n']).flatten) ∧
    exchange.Decodes request ending (exchange.run launch world request).1 ∧
    (staged.isFile exchange.inputFile = true → ending.status = some 0 →
      ending.files.read exchange.outputFile = staged.read exchange.inputFile →
      0 < request.outWidth → (∀ word ∈ request.words, word.width = request.outWidth) →
      (exchange.run launch world request).1 = .ok request.words) := by
  rw [exchange.run_eq_outcome request present prepared launched]
  refine ⟨fun file => ⟨_, exchange.read_of_prepare prepared file, ?_⟩,
    exchange.outcome_decodes request ending, ?_⟩
  · rw [inputText, Text.unlines, String.toList_ofList, List.flatMap_def, List.map_map]
    rfl
  · intro file ended copied positive uniform
    rw [exchange.read_of_prepare prepared file] at copied
    rw [exchange.outcome_of_text request ended copied, readLines_inputText positive _ uniform]

def argument (name : String) : List String → String
  | first :: value :: rest => if first = name then value else argument name (value :: rest)
  | _ => ""

/-- A simulator that gives back its input. -/
def copier : Launcher := fun files call => do
  let content ← files.read (argument "--in" call.arguments)
  let files ← files.write (argument "--out" call.arguments) content
  return ⟨some 0, .empty, files⟩

def copying : Exchange :=
  ⟨"copier", ["--quiet"], "stage"⟩

def copied : SimulationRequest :=
  ⟨Path.artifact "." "dwc", [.ofNat 10 0x2a5, .ofNat 10 3], 10, 10, 2⟩

def stagedFiles : FileTree :=
  { Tensor.builtFiles with entries :=
    (["stage", "input.hex"], .file (inputText copied.words).toUTF8 0o666) ::
      (["stage"], .directory 0o777) :: Tensor.builtFiles.entries }

def copiedFiles : FileTree :=
  stagedFiles.put ["stage", "output.hex"] (.file (inputText copied.words).toUTF8 0o666)

theorem run_decodes_copied :
    (copying.run copier ⟨Tensor.builtFiles, ()⟩ copied).1 = .ok copied.words := by
  have prepared : copying.prepare Tensor.builtFiles copied.words = .ok stagedFiles := rfl
  have file : stagedFiles.isFile copying.inputFile = true := by decide
  have input : argument "--in" (copying.invocation copied).arguments = copying.inputFile := rfl
  have output : argument "--out" (copying.invocation copied).arguments = copying.outputFile := rfl
  have written : stagedFiles.write copying.outputFile (inputText copied.words).toUTF8 =
      .ok copiedFiles := rfl
  have found := copying.read_of_prepare prepared file
  have kept := FileTree.read_write written (by decide)
  have launched : copier stagedFiles (copying.invocation copied) =
      .ok ⟨some 0, .empty, copiedFiles⟩ := by
    simp only [copier, input, output, found, written, bind, Except.bind, pure, Except.pure]
  exact (run_decodes copying copier ⟨Tensor.builtFiles, ()⟩ copied stagedFiles _
    Tensor.isFile_builtFiles prepared launched).2.2 file rfl (kept.trans found.symm) (by decide)
    (by decide)

end Exchange

end StreamWidth
