import StreamWidth.Proofs.Evaluation

/-!
Outcomes of runs in simulation. What a run comes to is told from the tensor, from the files and from
the answer to its one request: packing, unpacking and the check on the way out have nothing to add.
-/

namespace StreamWidth

/-- What a converter takes for its input. -/
structure Converter.Takes (converter : Converter) (tensor : Tensor) : Prop where
  shape : tensor.shape = converter.shape
  type : tensor.type = converter.type
  allowed : ∀ x ∈ tensor.data, tensor.type.accepts x = .ok true

/-- Why a converter does not take a tensor. The first difference counts, and of the elements the
first that is refused. -/
inductive Refusal (converter : Converter) (tensor : Tensor) : ValidationError → Prop
  | shape (different : tensor.shape ≠ converter.shape) :
      Refusal converter tensor (.inputShape tensor.shape converter.shape)
  | type (shape : tensor.shape = converter.shape) (different : tensor.type ≠ converter.type) :
      Refusal converter tensor (.inputType tensor.type converter.type)
  | value (shape : tensor.shape = converter.shape) (type : tensor.type = converter.type)
      {before after : List Binary32} {x : Binary32} (data : tensor.data = before ++ x :: after)
      (allowed : ∀ y ∈ before, tensor.type.accepts y = .ok true)
      (refused : tensor.type.accepts x = .ok false) :
      Refusal converter tensor (.inputValue x before.length tensor.type)

theorem Tensor.firstRefused_cases {type : ElementType} (supported : type.isSupported = true)
    (elements : List Binary32) : ∀ index,
    (∀ x ∈ elements, type.accepts x = .ok true) ∧ firstRefused type index elements = .ok none ∨
      ∃ before x after, elements = before ++ x :: after ∧
        (∀ y ∈ before, type.accepts y = .ok true) ∧ type.accepts x = .ok false ∧
        firstRefused type index elements = .ok (some (index + before.length, x)) := by
  -- Induction on the elements; the index counts those that were accepted before.
  induction elements with
  | nil => exact fun _ => Or.inl ⟨by simp, rfl⟩
  | cons x rest ih =>
      intro index
      obtain ⟨accepted, decided, _⟩ := ElementType.accepts_eq_ok supported x
      cases accepted with
      | false => exact Or.inr ⟨[], x, rest, rfl, by simp, decided, by rw [firstRefused, decided]; rfl⟩
      | true =>
          have next : firstRefused type index (x :: rest) = firstRefused type (index + 1) rest := by
            rw [firstRefused, decided]
            rfl
          rw [next]
          rcases ih (index + 1) with ⟨every, nothing⟩ | ⟨before, y, after, data, allowed, refused, found⟩
          · exact Or.inl ⟨List.forall_mem_cons.2 ⟨decided, every⟩, nothing⟩
          · refine Or.inr ⟨x :: before, y, after, by rw [data]; rfl,
              List.forall_mem_cons.2 ⟨decided, allowed⟩, refused, ?_⟩
            rw [found, List.length_cons, Nat.add_assoc, Nat.add_comm 1]

section

variable {converter : Converter} {tensor : Tensor}

theorem Converter.takes_iff (converter : Converter) (tensor : Tensor) :
    converter.Takes tensor ↔ checkInput converter tensor = .ok () := by
  rw [checkInput_eq_ok_iff, Tensor.firstDisallowed_eq_none_iff]
  exact ⟨fun takes => ⟨takes.shape, takes.type, takes.allowed⟩,
    fun ⟨shape, type, allowed⟩ => ⟨shape, type, allowed⟩⟩

theorem Refusal.not_takes {cause : ValidationError} (refusal : Refusal converter tensor cause) :
    ¬converter.Takes tensor := by
  intro takes
  cases refusal with
  | shape different => exact different takes.shape
  | type _ different => exact different takes.type
  | value _ _ data _ refused =>
      have accepted := takes.allowed _ (data ▸ List.mem_append_cons_self)
      simp [refused] at accepted

theorem checkInput_cases (converter : Converter) (tensor : Tensor) :
    converter.Takes tensor ∨
      ∃ cause, Refusal converter tensor cause ∧
        checkInput converter tensor = .error (.validation cause) := by
  by_cases shape : tensor.shape = converter.shape
  · by_cases type : tensor.type = converter.type
    · rcases Tensor.firstRefused_cases (type ▸ converter.supported) tensor.data 0 with
        ⟨allowed, _⟩ | ⟨before, x, after, data, allowed, refused, found⟩
      · exact Or.inl ⟨shape, type, allowed⟩
      · refine Or.inr ⟨_, .value shape type data allowed refused, ?_⟩
        rw [Nat.zero_add] at found
        simp only [checkInput, shape, type, Tensor.firstDisallowed] at found ⊢
        simp only [found, ne_eq, not_true_eq_false, ↓reduceIte, bind, Except.bind]
        rfl
    · refine Or.inr ⟨_, .type shape type, ?_⟩
      simp only [checkInput, shape, type, ne_eq, not_true_eq_false, not_false_eq_true, ↓reduceIte]
      rfl
  · refine Or.inr ⟨_, .shape shape, ?_⟩
    simp only [checkInput, shape, ne_eq, not_false_eq_true, ↓reduceIte]
    rfl

theorem Converter.not_takes_iff (converter : Converter) (tensor : Tensor) :
    ¬converter.Takes tensor ↔ tensor.shape ≠ converter.shape ∨ tensor.type ≠ converter.type ∨
      ∃ x ∈ tensor.data, tensor.type.accepts x = .ok false := by
  constructor
  · intro refused
    obtain ⟨cause, refusal, _⟩ := (checkInput_cases converter tensor).resolve_left refused
    cases refusal with
    | shape different => exact Or.inl different
    | type _ different => exact Or.inr (Or.inl different)
    | value _ _ data _ refused =>
        exact Or.inr (Or.inr ⟨_, data ▸ List.mem_append_cons_self, refused⟩)
  · rintro (different | different | ⟨x, member, refused⟩) takes
    · exact different takes.shape
    · exact different takes.type
    · have accepted := takes.allowed x member
      simp [refused] at accepted

theorem Converter.Takes.not_different (takes : converter.Takes tensor) :
    ¬(tensor.shape ≠ converter.shape ∨ tensor.type ≠ converter.type ∨
      ∃ x ∈ tensor.data, tensor.type.accepts x = .ok false) :=
  fun different => (converter.not_takes_iff tensor).2 different takes

theorem Converter.Takes.validation_iff (takes : converter.Takes tensor)
    {result : Except Failure Tensor} (other : ∀ cause, result ≠ .error (.validation cause)) :
    (∃ cause, result = .error (.validation cause)) ↔
      tensor.shape ≠ converter.shape ∨ tensor.type ≠ converter.type ∨
        ∃ x ∈ tensor.data, tensor.type.accepts x = .ok false :=
  iff_of_false (fun ⟨cause, same⟩ => other cause same) takes.not_different

def Converter.hardwareRoot (converter : Converter) (root : Option String) : Option String :=
  converter.attributes.hardwareDirectory <|> root

def Located (root : Option String) (files : FileTree) (converter : Converter) (artifact : String) :
    Prop :=
  ∃ directory, converter.hardwareRoot root = some directory ∧
    artifact = Path.artifact directory converter.name ∧ files.isFile artifact = true

theorem locateHardware_eq_ok_iff {root : Option String} {files : FileTree} {artifact : String} :
    locateHardware root files converter = .ok artifact ↔ Located root files converter artifact := by
  constructor
  · intro success
    rw [locateHardware] at success
    split at success
    · simp at success
    · rename_i directory known
      dsimp only at success
      split at success
      · rename_i present
        obtain rfl := Except.ok.inj success
        exact ⟨directory, known, rfl, present⟩
      · simp at success
  · rintro ⟨directory, known, rfl, present⟩
    exact locateHardware_eq_ok known present

theorem locateHardware_eq_error {root : Option String} {files : FileTree}
    (absent : ¬∃ artifact, Located root files converter artifact) :
    locateHardware root files converter = .error (.missingArtifact
      (Path.artifact ((converter.hardwareRoot root).getD "") converter.name)) := by
  rw [locateHardware]
  cases known : converter.hardwareRoot root with
  | none =>
      rw [Converter.hardwareRoot] at known
      simp only [known, Option.getD_none]
  | some directory =>
      have missing : files.isFile (Path.artifact directory converter.name) ≠ true :=
        fun present => absent ⟨_, directory, known, rfl, present⟩
      rw [Converter.hardwareRoot] at known
      simp only [known, Option.getD_some, missing, ↓reduceIte, Bool.false_eq_true]

/-- What is asked of a backend: the words of the tensor, for hardware that is there, over streams of
the widths of the converter. -/
structure Asks (root : Option String) (files : FileTree) (converter : Converter) (tensor : Tensor)
    (request : SimulationRequest) : Prop where
  located : Located root files converter request.artifact
  words : tensor.pack (converter.width .input) = .ok request.words
  inWidth : request.inWidth = converter.width .input
  outWidth : request.outWidth = converter.width .output
  expected : converter.wordCount .output = .ok request.expected

theorem simulationRequest_eq_ok_iff {root : Option String} {files : FileTree}
    {request : SimulationRequest} :
    simulationRequest root files converter tensor = .ok request ↔
      Asks root files converter tensor request := by
  simp only [simulationRequest, bind_eq_ok_iff, locateHardware_eq_ok_iff]
  constructor
  · rintro ⟨artifact, located, words, packed, expected, counted, same⟩
    obtain rfl := Except.ok.inj same
    exact ⟨located, packed, rfl, rfl, counted⟩
  · obtain ⟨artifact, words, inWidth, outWidth, expected⟩ := request
    rintro ⟨located, packed, rfl, rfl, counted⟩
    exact ⟨artifact, located, words, packed, expected, counted, rfl⟩

theorem simulationRequest_eq_error {root : Option String} {files : FileTree}
    (absent : ¬∃ artifact, Located root files converter artifact) :
    simulationRequest root files converter tensor = .error (.missingArtifact
      (Path.artifact ((converter.hardwareRoot root).getD "") converter.name)) := by
  rw [simulationRequest, locateHardware_eq_error absent]
  rfl

theorem Asks.unique {root : Option String} {files : FileTree} {request other : SimulationRequest}
    (asks : Asks root files converter tensor request)
    (again : Asks root files converter tensor other) : other = request :=
  Except.ok.inj ((simulationRequest_eq_ok_iff.2 again).symm.trans (simulationRequest_eq_ok_iff.2 asks))

theorem Asks.found {root : Option String} {files : FileTree} {request : SimulationRequest}
    (asks : Asks root files converter tensor request) :
    ∃ artifact, Located root files converter artifact :=
  ⟨_, asks.located⟩

theorem exists_asks (takes : converter.Takes tensor) {root : Option String} {files : FileTree}
    {artifact : String} (located : Located root files converter artifact) :
    ∃ request, Asks root files converter tensor request := by
  obtain ⟨_, _, counted⟩ := converter.folds_wordCount .output
  exact ⟨_, simulationRequest_eq_ok_iff.1 (simulationRequest_eq_ok
    ((converter.takes_iff tensor).1 takes) (locateHardware_eq_ok_iff.2 located) counted)⟩

structure Converter.Fills (converter : Converter) (words : List Word) : Prop where
  count : converter.wordCount .output = .ok words.length
  width : ∀ word ∈ words, word.width = converter.width .output

/-- How words miss the output of a converter. Their count is looked at first, then the first of
another width. -/
inductive Mismatch (converter : Converter) (words : List Word) : MismatchError → Prop
  | count {expected : Nat} (counted : converter.wordCount .output = .ok expected)
      (different : words.length ≠ expected) :
      Mismatch converter words
        (.wordCount words.length (converter.width .output) converter.shape expected)
  | width (count : converter.wordCount .output = .ok words.length) {before after : List Word}
      {word : Word} (order : words = before ++ word :: after)
      (same : ∀ other ∈ before, other.width = converter.width .output)
      (different : word.width ≠ converter.width .output) :
      Mismatch converter words (.wordWidth word.width (converter.width .output))

theorem Mismatch.not_fills {words : List Word} {cause : MismatchError}
    (mismatch : Mismatch converter words cause) : ¬converter.Fills words := by
  intro fills
  cases mismatch with
  | count counted different => exact different (Except.ok.inj (fills.count.symm.trans counted))
  | width _ order _ different =>
      exact different (fills.width _ (order ▸ List.mem_append_cons_self))

theorem checkWords_cases (words : List Word) (width : Nat) (shape folded : Shape) :
    words.length = folded.outerCount ∧ (∀ word ∈ words, word.width = width) ∨
      words.length ≠ folded.outerCount ∧ checkWords words width shape folded =
        .error (.shapeMismatch (.wordCount words.length width shape folded.outerCount)) ∨
      ∃ before word after, words.length = folded.outerCount ∧ words = before ++ word :: after ∧
        (∀ other ∈ before, other.width = width) ∧ word.width ≠ width ∧
        checkWords words width shape folded =
          .error (.shapeMismatch (.wordWidth word.width width)) := by
  by_cases count : words.length = folded.outerCount
  · cases found : words.find? (·.width != width) with
    | none => exact Or.inl ⟨count, by simpa using List.find?_eq_none.1 found⟩
    | some word =>
        obtain ⟨different, before, after, order, same⟩ := List.find?_eq_some_iff_append.1 found
        refine Or.inr (Or.inr ⟨before, word, after, count, order, by simpa using same,
          by simpa using different, ?_⟩)
        simp only [checkWords, count, ne_eq, not_true_eq_false, ↓reduceIte, found]
  · exact Or.inr (Or.inl ⟨count, if_pos count⟩)

theorem unpack_cases (converter : Converter) (words : List Word) :
    (converter.Fills words ∧ ∃ output,
      (receive converter (.ok words)).bind (checkOutput converter) = .ok output) ∨
    ∃ cause, Mismatch converter words cause ∧
      (receive converter (.ok words)).bind (checkOutput converter) =
        .error (.shapeMismatch cause) := by
  obtain ⟨channels, folds, counted⟩ := converter.folds_wordCount .output
  have folded := (Shape.fold_eq_ok_iff converter.shape _ (converter.width .output)
    converter.type.storageBits).2 ⟨channels, folds, rfl⟩
  have refused {cause : MismatchError}
      (checked : checkWords words (converter.width .output) converter.shape
        (converter.shape.splitLast channels (converter.width .output / converter.type.storageBits)) =
          .error (.shapeMismatch cause)) :
      (receive converter (.ok words)).bind (checkOutput converter) =
        .error (.shapeMismatch cause) := by
    rw [receive, Tensor.unpack, folded]
    simp only [bind, Except.bind, checked]
  -- The shape folds since the converter exists, which leaves the words to be wrong.
  rcases checkWords_cases words (converter.width .output) converter.shape _ with
    ⟨count, uniform⟩ | ⟨different, checked⟩ |
    ⟨before, word, after, count, order, same, different, checked⟩
  · obtain ⟨output, unpacked⟩ :=
      Tensor.exists_unpack_eq_ok converter.short folds converter.countable words count uniform
    exact Or.inl ⟨⟨by rw [counted, count], uniform⟩, output,
      (unpack_checkOutput_iff converter words output).2 unpacked⟩
  · exact Or.inr ⟨_, .count counted different, refused checked⟩
  · exact Or.inr ⟨_, .width (by rw [counted, count]) order same different, refused checked⟩

namespace Engine

variable {State : Type}

def Answered (engine : Engine State) (converter : Converter) (tensor : Tensor) (world : World State)
    (answer : SimulationResult) : Prop :=
  ∃ request, converter.Takes tensor ∧
    Asks engine.hardwareRoot world.files converter tensor request ∧
    (engine.backend.simulate world request).1 = answer

/-- What the result of a run in simulation says about the tensor, the files and the answer. -/
structure Outcome (engine : Engine State) (converter : Converter) (tensor : Tensor)
    (world : World State) (result : Except Failure Tensor) : Prop where
  validation : (∃ cause, result = .error (.validation cause)) ↔
    tensor.shape ≠ converter.shape ∨ tensor.type ≠ converter.type ∨
      ∃ x ∈ tensor.data, tensor.type.accepts x = .ok false
  missingArtifact : ∀ path, result = .error (.missingArtifact path) ↔
    (converter.Takes tensor ∧
      (¬∃ artifact, Located engine.hardwareRoot world.files converter artifact) ∧
      path = Path.artifact ((converter.hardwareRoot engine.hardwareRoot).getD "") converter.name) ∨
    engine.Answered converter tensor world (.error (.artifactMissing path))
  backend : ∀ cause, result = .error (.backend cause) ↔
    ((∃ detail, cause = .failed detail) ∨ ∃ text, cause = .io text) ∧
      engine.Answered converter tensor world (.error cause)
  shapeMismatch : (∃ cause, result = .error (.shapeMismatch cause)) ↔
    ∃ words, engine.Answered converter tensor world (.ok words) ∧ ¬converter.Fills words
  ok : (∃ output, result = .ok output) ↔
    ∃ words, engine.Answered converter tensor world (.ok words) ∧ converter.Fills words
  fault : ∀ cause, result = .error (.fault cause) ↔
    engine.Answered converter tensor world (.error (.fault cause))
  configuration : ∀ cause, result ≠ .error (.configuration cause)
  refusal : ∀ cause, result = .error (.validation cause) → Refusal converter tensor cause
  mismatch : ∀ cause, result = .error (.shapeMismatch cause) →
    ∃ words, engine.Answered converter tensor world (.ok words) ∧ Mismatch converter words cause

variable {engine : Engine State} {world : World State}

theorem not_answered_of_not_takes (refused : ¬converter.Takes tensor) (answer : SimulationResult) :
    ¬engine.Answered converter tensor world answer :=
  fun ⟨_, takes, _⟩ => refused takes

theorem not_answered_of_absent
    (absent : ¬∃ artifact, Located engine.hardwareRoot world.files converter artifact)
    (answer : SimulationResult) : ¬engine.Answered converter tensor world answer :=
  fun ⟨_, _, asks, _⟩ => absent ⟨_, asks.located⟩

theorem answered_iff (takes : converter.Takes tensor) {request : SimulationRequest}
    (asks : Asks engine.hardwareRoot world.files converter tensor request)
    (answer : SimulationResult) :
    engine.Answered converter tensor world answer ↔
      (engine.backend.simulate world request).1 = answer := by
  constructor
  · rintro ⟨other, _, again, same⟩
    rwa [asks.unique again] at same
  · exact fun same => ⟨request, takes, asks, same⟩

theorem outcome_of_refusal {cause : ValidationError} (refusal : Refusal converter tensor cause) :
    engine.Outcome converter tensor world (.error (.validation cause)) := by
  have refused := refusal.not_takes
  have unanswered (answer : SimulationResult) : ¬engine.Answered converter tensor world answer :=
    not_answered_of_not_takes refused answer
  constructor
  case validation => simpa using (converter.not_takes_iff tensor).1 refused
  case refusal =>
    intro other same
    obtain rfl := Failure.validation.inj (Except.error.inj same)
    exact refusal
  all_goals simp [unanswered, refused]

theorem outcome_of_absent (takes : converter.Takes tensor)
    (absent : ¬∃ artifact, Located engine.hardwareRoot world.files converter artifact) :
    engine.Outcome converter tensor world (.error (.missingArtifact
      (Path.artifact ((converter.hardwareRoot engine.hardwareRoot).getD "") converter.name))) := by
  have unanswered (answer : SimulationResult) : ¬engine.Answered converter tensor world answer :=
    not_answered_of_absent absent answer
  constructor
  case validation => exact takes.validation_iff (by simp)
  all_goals simp [unanswered, takes, absent, eq_comm]

theorem outcome_of_failure (takes : converter.Takes tensor) {request : SimulationRequest}
    (asks : Asks engine.hardwareRoot world.files converter tensor request)
    {failure : SimulationError}
    (replied : (engine.backend.simulate world request).1 = .error failure) :
    engine.Outcome converter tensor world (.error (.ofSimulation failure)) := by
  have found := asks.found
  cases failure with
  | artifactMissing path | failed cause | io text | fault cause =>
      constructor
      case validation => exact takes.validation_iff (by simp [Failure.ofSimulation])
      case backend =>
        intro cause
        cases cause <;> simp [Failure.ofSimulation, answered_iff takes asks, replied]
      all_goals simp [Failure.ofSimulation, answered_iff takes asks, replied, found]

theorem outcome_of_fills (takes : converter.Takes tensor) {request : SimulationRequest}
    (asks : Asks engine.hardwareRoot world.files converter tensor request) {words : List Word}
    (replied : (engine.backend.simulate world request).1 = .ok words)
    (fills : converter.Fills words) (output : Tensor) :
    engine.Outcome converter tensor world (.ok output) := by
  have found := asks.found
  constructor
  case validation => exact takes.validation_iff (by simp)
  all_goals simp [answered_iff takes asks, replied, found, fills]

theorem outcome_of_mismatch (takes : converter.Takes tensor) {request : SimulationRequest}
    (asks : Asks engine.hardwareRoot world.files converter tensor request) {words : List Word}
    (replied : (engine.backend.simulate world request).1 = .ok words) {cause : MismatchError}
    (mismatch : Mismatch converter words cause) :
    engine.Outcome converter tensor world (.error (.shapeMismatch cause)) := by
  have found := asks.found
  constructor
  case validation => exact takes.validation_iff (by simp)
  case mismatch =>
    intro other same
    obtain rfl := Failure.shapeMismatch.inj (Except.error.inj same)
    exact ⟨words, (answered_iff takes asks _).2 replied, mismatch⟩
  all_goals simp [answered_iff takes asks, replied, found, mismatch.not_fills]

/-- The result of a run in simulation is told from the tensor, the files and the answer to the one
request, and every kind of result has its one occasion. No configuration is found wrong, no tensor
that was taken is refused later, and what is unpacked passes the check on the way out. -/
theorem run_cosimulation_outcome (engine : Engine State) (converter : Converter) (tensor : Tensor)
    (world : World State) :
    engine.Outcome converter tensor world (engine.run converter tensor .cosimulation world).1 := by
  -- The cases follow the run: the tensor, the hardware, the answer, the words in it.
  rcases checkInput_cases converter tensor with takes | ⟨cause, refusal, refused⟩
  · have checked := (converter.takes_iff tensor).1 takes
    by_cases located : ∃ artifact, Located engine.hardwareRoot world.files converter artifact
    · obtain ⟨artifact, present⟩ := located
      obtain ⟨request, asks⟩ := exists_asks takes present
      rw [run_of_request engine checked (simulationRequest_eq_ok_iff.2 asks)]
      cases replied : (engine.backend.simulate world request).1 with
      | error failure => exact outcome_of_failure takes asks replied
      | ok words =>
          rcases unpack_cases converter words with
            ⟨fills, output, delivered⟩ | ⟨cause, mismatch, refused⟩
          · exact delivered ▸ outcome_of_fills takes asks replied fills output
          · exact refused ▸ outcome_of_mismatch takes asks replied mismatch
    · simp only [run, checked, evaluate, simulationRequest_eq_error located]
      exact outcome_of_absent takes located
  · simp only [run, refused]
    exact outcome_of_refusal refusal

end Engine

end

end StreamWidth
