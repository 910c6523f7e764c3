import StreamWidth.Proofs.Outcomes

/-!
Where the generated hardware of a converter is looked for. Joining paths is associative, so the
parts below the root of generated code can be joined first; they make one relative path, unless the
name of the converter is an absolute path, which leads away from the root.
-/

namespace StreamWidth

namespace Path

/-- What has to stand between a directory and a path below it. -/
def separator (directory : String) : String :=
  if directory = "" ∨ endsInSlash directory = true then "" else "/"

theorem join_of_absolute {path : String} (absolute : isAbsolute path = true) (directory : String) :
    join directory path = path := by
  rw [join, absolute, Bool.true_or, if_pos rfl]

theorem join_of_relative {path : String} (relative : isAbsolute path = false) (directory : String) :
    join directory path = directory ++ separator directory ++ path := by
  rw [join, relative, Bool.false_or, separator]
  by_cases empty : directory = ""
  · subst empty
    simp
  · by_cases ends : endsInSlash directory = true
    · simp [empty, ends]
    · simp [empty, ends]

theorem isAbsolute_append_of_ne {path : String} (nonempty : path ≠ "") (rest : String) :
    isAbsolute (path ++ rest) = isAbsolute path := by
  rw [isAbsolute, isAbsolute, String.toList_append]
  cases chars : path.toList with
  | nil => exact absurd (String.toList_eq_nil_iff.1 chars) nonempty
  | cons c tail => rfl

theorem isAbsolute_append (path : String) {rest : String} (relative : isAbsolute rest = false) :
    isAbsolute (path ++ rest) = isAbsolute path := by
  by_cases empty : path = ""
  · subst empty
    exact relative
  · exact isAbsolute_append_of_ne empty rest

theorem endsInSlash_append (front : String) {path : String} (nonempty : path ≠ "") :
    endsInSlash (front ++ path) = endsInSlash path := by
  have filled : path.toList ≠ [] := fun empty => nonempty (String.toList_eq_nil_iff.1 empty)
  rw [endsInSlash, endsInSlash, String.toList_append, List.getLast?_append,
    List.getLast?_eq_some_getLast filled, Option.some_or]

theorem separator_append (front : String) {path : String} (nonempty : path ≠ "") :
    separator (front ++ path) = separator path := by
  have whole : front ++ path ≠ "" := by simp [nonempty]
  rw [separator, separator, endsInSlash_append front nonempty]
  simp only [whole, nonempty, false_or]

theorem separator_complete (directory : String) :
    separator (directory ++ separator directory) = "" := by
  by_cases done : directory = "" ∨ endsInSlash directory = true
  · have bare : separator directory = "" := if_pos done
    rw [bare, String.append_empty, bare]
  · have slash : separator directory = "/" := if_neg done
    rw [slash, separator_append directory (by decide)]
    rfl

theorem isAbsolute_join {path : String} (relative : isAbsolute path = false) (directory : String) :
    isAbsolute (join directory path) = isAbsolute directory := by
  rw [join_of_relative relative, String.append_assoc]
  by_cases empty : directory = ""
  · subst empty
    exact relative
  · exact isAbsolute_append_of_ne empty _

theorem join_assoc (first second third : String) :
    join (join first second) third = join first (join second third) := by
  cases third_absolute : isAbsolute third with
  | true => rw [join_of_absolute third_absolute, join_of_absolute third_absolute,
      join_of_absolute third_absolute]
  | false =>
      cases second_absolute : isAbsolute second with
      | true =>
          have whole := (isAbsolute_join third_absolute second).trans second_absolute
          rw [join_of_absolute second_absolute, join_of_absolute whole]
      | false =>
          have whole := (isAbsolute_join third_absolute second).trans second_absolute
          rw [join_of_relative third_absolute, join_of_relative second_absolute,
            join_of_relative whole, join_of_relative third_absolute]
          -- The separator before the third path is decided by the second one, if there is any.
          by_cases empty : second = ""
          · subst empty
            have bare : separator "" = "" := rfl
            rw [String.append_empty, separator_complete, bare]
            simp
          · rw [separator_append _ empty]
            simp only [String.append_assoc]

@[simp] theorem joinAll_nil (directory : String) : joinAll directory [] = directory :=
  rfl

@[simp] theorem joinAll_cons (directory path : String) (rest : List String) :
    joinAll directory (path :: rest) = joinAll (join directory path) rest :=
  rfl

theorem joinAll_join (first second : String) (paths : List String) :
    joinAll (join first second) paths = join first (joinAll second paths) := by
  induction paths generalizing second with
  | nil => rw [joinAll_nil, joinAll_nil]
  | cons path rest ih => rw [joinAll_cons, join_assoc, ih, joinAll_cons]

def hardwareFile (name : String) : String :=
  name ++ "_" ++ name ++ ".v"

/-- Where the hardware of a converter lies below the root of generated code. -/
def layout (name : String) : String :=
  "project_" ++ name ++ separator ("project_" ++ name) ++ "sol1/impl/verilog/" ++ hardwareFile name

theorem isAbsolute_hardwareFile (name : String) :
    isAbsolute (hardwareFile name) = isAbsolute name := by
  rw [hardwareFile, String.append_assoc, String.append_assoc]
  exact isAbsolute_append name (isAbsolute_append_of_ne (by decide) _)

theorem artifact_eq_join (root name : String) : artifact root name =
    join root (joinAll ("project_" ++ name) ["sol1", "impl", "verilog", hardwareFile name]) := by
  rw [artifact, joinAll_cons, joinAll_join, hardwareFile]

theorem joinAll_eq_layout {name : String} (relative : isAbsolute name = false) :
    joinAll ("project_" ++ name) ["sol1", "impl", "verilog", hardwareFile name] = layout name := by
  have sol1 (front : String) : separator (front ++ "sol1") = "/" :=
    separator_append front (by decide)
  have impl (front : String) : separator (front ++ "impl") = "/" :=
    separator_append front (by decide)
  have verilog (front : String) : separator (front ++ "verilog") = "/" :=
    separator_append front (by decide)
  have middle : "sol1/impl/verilog/" = "sol1" ++ "/" ++ "impl" ++ "/" ++ "verilog" ++ "/" := by simp
  have relativeParts : isAbsolute "sol1" = false ∧ isAbsolute "impl" = false ∧
      isAbsolute "verilog" = false := ⟨rfl, rfl, rfl⟩
  have file := (isAbsolute_hardwareFile name).trans relative
  simp only [joinAll_cons, joinAll_nil, join_of_relative relativeParts.1,
    join_of_relative relativeParts.2.1, join_of_relative relativeParts.2.2, join_of_relative file,
    sol1, impl, verilog]
  unfold layout
  simp only [middle, String.append_assoc]

theorem isAbsolute_layout (name : String) : isAbsolute (layout name) = false := by
  unfold layout
  simp only [String.append_assoc]
  exact isAbsolute_append_of_ne (by decide) _

theorem artifact_of_relative {name : String} (relative : isAbsolute name = false) (root : String) :
    artifact root name = root ++ separator root ++ layout name := by
  rw [artifact_eq_join, joinAll_eq_layout relative, join_of_relative (isAbsolute_layout name)]

theorem artifact_of_absolute {name : String} (absolute : isAbsolute name = true) (root : String) :
    artifact root name = hardwareFile name :=
  join_of_absolute ((isAbsolute_hardwareFile name).trans absolute) _

theorem artifact_eq_layout_iff (root name : String) :
    artifact root name = root ++ separator root ++ layout name ↔ isAbsolute name = false := by
  cases absolute : isAbsolute name with
  | false => exact iff_of_true (artifact_of_relative absolute root) rfl
  | true =>
      refine iff_of_false (fun same => ?_) (by simp)
      have lengths := congrArg String.length same
      rw [artifact_of_absolute absolute] at lengths
      unfold layout at lengths
      simp only [String.length_append] at lengths
      have least : "project_".length = 8 := rfl
      omega

end Path

/-- Where a converter looks for its hardware, which need not be there. -/
def Converter.hardwarePath (converter : Converter) (root : Option String) : String :=
  Path.artifact ((converter.hardwareRoot root).getD "") converter.name

theorem locateHardware_cases (root : Option String) (files : FileTree) (converter : Converter) :
    files.isFile (converter.hardwarePath root) = true ∧
        locateHardware root files converter = .ok (converter.hardwarePath root) ∨
      locateHardware root files converter =
        .error (.missingArtifact (converter.hardwarePath root)) := by
  by_cases located : ∃ artifact, Located root files converter artifact
  · obtain ⟨artifact, located⟩ := located
    have found := locateHardware_eq_ok_iff.2 located
    obtain ⟨directory, known, rfl, present⟩ := located
    have path : converter.hardwarePath root = Path.artifact directory converter.name := by
      rw [Converter.hardwarePath, known, Option.getD_some]
    rw [path]
    exact Or.inl ⟨present, found⟩
  · exact Or.inr (locateHardware_eq_error located)

theorem artifact_of_request {root : Option String} {files : FileTree} {converter : Converter}
    {tensor : Tensor} {request : SimulationRequest}
    (requested : simulationRequest root files converter tensor = .ok request) :
    request.artifact = converter.hardwarePath root ∧
      files.isFile request.artifact = true := by
  have located := locateHardware_eq_ok_iff.2 (simulationRequest_eq_ok_iff.1 requested).located
  rcases locateHardware_cases root files converter with ⟨present, found⟩ | missing
  · obtain same := Except.ok.inj (located.symm.trans found)
    exact ⟨same, same ▸ present⟩
  · simp [located] at missing

/-- Hardware is looked for below the root, in the directories of the layout and under its name
there, unless the name of the converter is an absolute path: then the root has no say in it. The
file that is looked for is the one that is reported as missing or given to a backend. -/
theorem artifact_layout (root name : String) :
    (Path.artifact root name = root ++ Path.separator root ++ Path.layout name ↔
      Path.isAbsolute name = false) ∧
    ((∃ below, Path.artifact root name = root ++ below) ↔
      Path.isAbsolute name = false ∨ ∃ below, Path.hardwareFile name = root ++ below) ∧
    (Path.isAbsolute name = true → Path.artifact root name = Path.hardwareFile name) ∧
    ∀ (fallback : Option String) (files : FileTree) (converter : Converter),
      converter.name = name → (converter.hardwareRoot fallback).getD "" = root →
      (files.isFile (Path.artifact root name) = true ∧
          locateHardware fallback files converter = .ok (Path.artifact root name) ∨
        locateHardware fallback files converter =
          .error (.missingArtifact (Path.artifact root name))) ∧
      ∀ tensor request, simulationRequest fallback files converter tensor = .ok request →
        request.artifact = Path.artifact root name ∧ files.isFile request.artifact = true := by
  refine ⟨Path.artifact_eq_layout_iff root name, ?_,
    fun absolute => Path.artifact_of_absolute absolute root, ?_⟩
  · cases absolute : Path.isAbsolute name with
    | false =>
        refine iff_of_true ⟨Path.separator root ++ Path.layout name, ?_⟩ (Or.inl rfl)
        rw [Path.artifact_of_relative absolute, String.append_assoc]
    | true =>
        rw [Path.artifact_of_absolute absolute]
        simp
  · rintro fallback files converter rfl rfl
    exact ⟨locateHardware_cases fallback files converter,
      fun _ _ requested => artifact_of_request requested⟩

theorem artifact_layout_sixIntegers :
    Path.artifact "/build/ipgen" "dwc0" =
      "/build/ipgen/project_dwc0/sol1/impl/verilog/dwc0_dwc0.v" ∧
    Path.artifact "/build/ipgen" "/abs" = "/abs_/abs.v" ∧
    ∃ request, simulationRequest (some ".") Tensor.builtFiles Engine.sixIntegersConverter
        Tensor.sixIntegers = .ok request ∧
      request.artifact = "./project_dwc/sol1/impl/verilog/dwc_dwc.v" := by
  obtain ⟨_, _, counted⟩ := Engine.sixIntegersConverter.folds_wordCount .output
  have located : locateHardware (some ".") Tensor.builtFiles Engine.sixIntegersConverter = .ok _ :=
    locateHardware_eq_ok rfl Tensor.isFile_builtFiles
  have requested := simulationRequest_eq_ok Engine.sixIntegers_checked located counted
  obtain ⟨below, _, _, lookups⟩ := artifact_layout "." "dwc"
  obtain ⟨given, _⟩ := (lookups (some ".") Tensor.builtFiles Engine.sixIntegersConverter rfl rfl).2
    _ _ requested
  have place : "." ++ Path.separator "." ++ Path.layout "dwc" =
      "./project_dwc/sol1/impl/verilog/dwc_dwc.v" := by decide
  have buildPlace : "/build/ipgen" ++ Path.separator "/build/ipgen" ++ Path.layout "dwc0" =
      "/build/ipgen/project_dwc0/sol1/impl/verilog/dwc0_dwc0.v" := by decide
  exact ⟨((artifact_layout "/build/ipgen" "dwc0").1.2 (by decide)).trans buildPlace,
    ((artifact_layout "/build/ipgen" "/abs").2.2.1 (by decide)).trans (by decide), _, requested,
    (given.trans (below.2 (by decide))).trans place⟩

/-- A converter whose name starts with a slash finds its hardware outside of the root. -/
theorem artifact_leaves_root :
    ¬∀ root name : String, ∃ below, Path.artifact root name = root ++ below := by
  intro claim
  obtain ⟨below, same⟩ := claim "/build/ipgen" "/abs"
  have escaped : Path.artifact "/build/ipgen" "/abs" = "/abs_/abs.v" := by decide
  have lengths := congrArg String.length (escaped.symm.trans same)
  have short : "/abs_/abs.v".length = 11 ∧ "/build/ipgen".length = 12 := ⟨rfl, rfl⟩
  rw [String.length_append] at lengths
  omega

end StreamWidth
