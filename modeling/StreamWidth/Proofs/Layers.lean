import StreamWidth.Settings.Sources

/-!
Settings as layers. Layers can be combined in any grouping, and each field of what they make together
is that of the last layer that sets it. The settings that are loaded consist of three layers: the file
of the user, the first usable file of the project, and the environment.
-/

namespace StreamWidth.Settings

inductive TextField
  | buildDirectory
  | executionMode
  | simulator

namespace TextField

def of : TextField → Settings → Option String
  | buildDirectory => Settings.buildDirectory
  | executionMode => Settings.executionMode
  | simulator => Settings.simulator

def variableName : TextField → String
  | buildDirectory => "DWC_BUILD_DIR"
  | executionMode => "DWC_EXEC_MODE"
  | simulator => "DWC_SIMULATOR"

end TextField

/-- A part of the settings on which the later of two layers has the last word. -/
structure IsField {α : Type} (field : Settings → Option α) : Prop where
  unset : field empty = none
  merged : ∀ settings later, field (settings.merge later) = (field later).or (field settings)

theorem TextField.isField (text : TextField) : IsField text.of := by
  cases text <;> exact ⟨rfl, fun _ _ => Option.orElse_eq_or⟩

theorem isField_padding : IsField padding :=
  ⟨rfl, fun _ _ => Option.orElse_eq_or⟩

section Merging

theorem eq_of_isField {settings other : Settings}
    (same : ∀ {α : Type} {field : Settings → Option α}, IsField field →
      field settings = field other) : settings = other := by
  obtain ⟨buildDirectory, executionMode, simulator, padding⟩ := settings
  obtain rfl : buildDirectory = other.buildDirectory := same TextField.buildDirectory.isField
  obtain rfl : executionMode = other.executionMode := same TextField.executionMode.isField
  obtain rfl : simulator = other.simulator := same TextField.simulator.isField
  obtain rfl : padding = other.padding := same isField_padding
  rfl

theorem merge_assoc (first second third : Settings) :
    (first.merge second).merge third = first.merge (second.merge third) :=
  eq_of_isField fun isField => by simp only [isField.merged, Option.or_assoc]

theorem merge_self (settings : Settings) : settings.merge settings = settings :=
  eq_of_isField fun isField => by rw [isField.merged, Option.or_self]

theorem empty_merge (settings : Settings) : empty.merge settings = settings :=
  eq_of_isField fun isField => by rw [isField.merged, isField.unset, Option.or_none]

theorem merge_empty (settings : Settings) : settings.merge empty = settings :=
  eq_of_isField fun isField => by rw [isField.merged, isField.unset, Option.none_or]

instance : Std.Associative merge :=
  ⟨merge_assoc⟩

def combine (layers : List Settings) : Settings :=
  layers.foldl merge empty

theorem combine_singleton (layer : Settings) : combine [layer] = layer :=
  empty_merge layer

theorem combine_append (layers more : List Settings) :
    combine (layers ++ more) = (combine layers).merge (combine more) := by
  calc combine (layers ++ more)
      = more.foldl merge ((combine layers).merge empty) := by
        rw [merge_empty, combine, combine, List.foldl_append]
    _ = (combine layers).merge (combine more) := List.foldl_assoc

theorem combine_cons (layer : Settings) (layers : List Settings) :
    combine (layer :: layers) = layer.merge (combine layers) := by
  rw [← List.singleton_append, combine_append, combine_singleton]

/-- Each field is that of the last layer that sets it. -/
theorem IsField.combine_eq_findSome? {α : Type} {field : Settings → Option α}
    (isField : IsField field) (layers : List Settings) :
    field (combine layers) = layers.reverse.findSome? field := by
  induction layers with
  | nil => exact isField.unset
  | cons layer rest ih =>
      rw [combine_cons, isField.merged, ih, List.reverse_cons, List.findSome?_append,
        List.findSome?_singleton]

example : combine [⟨some "/base/build", none, some "/base/sim", some true⟩,
    ⟨none, some "rtlsim", some "/overlay/sim", none⟩] =
      ⟨some "/base/build", some "rtlsim", some "/overlay/sim", some true⟩ := rfl

theorem IsField.combine_three {α : Type} {field : Settings → Option α} (isField : IsField field)
    (first second third : Settings) :
    field (combine [first, second, third]) = (field third).or ((field second).or (field first)) := by
  rw [isField.combine_eq_findSome?]
  simp only [List.reverse_cons, List.reverse_nil, List.findSome?_append, List.findSome?_singleton,
    List.findSome?_nil, Option.none_or, Option.or_assoc]

end Merging

section Sources

variable {parse : String → Option Settings} {files : FileTree} {environment : Environment}

def Supplies (parse : String → Option Settings) (files : FileTree) (path : String)
    (settings : Settings) : Prop :=
  ∃ text, files.readText path = .ok text ∧ parse text = some settings

def Unusable (parse : String → Option Settings) (files : FileTree) (path : String) : Prop :=
  (∃ failure, files.readText path = .error failure) ∨
    ∃ text, files.readText path = .ok text ∧ parse text = none

/-- What the first usable file of some places sets. Without such a file nothing is set. -/
inductive FirstUsable (parse : String → Option Settings) (files : FileTree) :
    List String → Settings → Prop
  | none : FirstUsable parse files [] empty
  | found {path : String} {rest : List String} {settings : Settings}
      (supplies : Supplies parse files path settings) :
      FirstUsable parse files (path :: rest) settings
  | passed {path : String} {rest : List String} {settings : Settings}
      (unusable : Unusable parse files path) (later : FirstUsable parse files rest settings) :
      FirstUsable parse files (path :: rest) settings

theorem ofFile?_eq_some_iff (path : String) (settings : Settings) :
    ofFile? parse files path = some settings ↔ Supplies parse files path settings := by
  rw [ofFile?, Supplies]
  cases files.readText path <;> simp [Except.toOption]

theorem ofFile?_eq_none_iff (path : String) :
    ofFile? parse files path = none ↔ Unusable parse files path := by
  rw [ofFile?, Unusable]
  cases files.readText path <;> simp [Except.toOption]

theorem firstUsable_iff (places : List String) (settings : Settings) :
    FirstUsable parse files places settings ↔
      settings = (places.findSome? (ofFile? parse files)).getD empty := by
  induction places with
  | nil =>
      constructor
      · rintro ⟨⟩
        rfl
      · rintro rfl
        exact .none
  | cons path rest ih =>
      rw [List.findSome?_cons]
      constructor
      · intro first
        cases first with
        | found supplies => rw [(ofFile?_eq_some_iff _ _).2 supplies, Option.getD_some]
        | passed unusable later => rw [(ofFile?_eq_none_iff _).2 unusable, ih.1 later]
      · intro same
        cases read : ofFile? parse files path with
        | none =>
            rw [read] at same
            exact .passed ((ofFile?_eq_none_iff _).1 read) (ih.2 same)
        | some supplied =>
            rw [read] at same
            exact .found ((ofFile?_eq_some_iff _ _).1 (same ▸ read))

theorem userFile?_eq (environment : Environment) :
    userFile? environment = environment.configDirectory.map fun directory =>
      Path.join (Path.join directory "dwc-bridge") "config.toml" :=
  rfl

theorem packageFile?_eq (environment : Environment) :
    packageFile? environment = (environment.entries.lookup "CARGO_MANIFEST_DIR").map fun directory =>
      Path.join directory "dwc-bridge.toml" :=
  rfl

theorem firstUsable_userSettings (settings : Settings) :
    FirstUsable parse files (userFile? environment).toList settings ↔
      settings = (userSettings parse files environment).getD empty := by
  rw [firstUsable_iff, userSettings]
  cases userFile? environment with
  | none => rfl
  | some path => cases read : ofFile? parse files path <;> simp [read]

theorem firstUsable_projectSettings (settings : Settings) :
    FirstUsable parse files (projectFile :: (packageFile? environment).toList) settings ↔
      settings = (projectSettings parse files environment).getD empty := by
  rw [firstUsable_iff, projectSettings, List.findSome?_cons]
  cases ofFile? parse files projectFile with
  | some supplied => rfl
  | none =>
      cases packageFile? environment with
      | none => rfl
      | some path => cases read : ofFile? parse files path <;> simp [read]

end Sources

theorem load_eq_combine (parse : String → Option Settings) (files : FileTree)
    (environment : Environment) :
    load parse files environment = combine [(userSettings parse files environment).getD empty,
      (projectSettings parse files environment).getD empty, environmentSettings environment] := by
  simp only [combine, List.foldl_cons, List.foldl_nil, empty_merge]
  rfl

theorem of_environmentSettings (text : TextField) (environment : Environment) :
    text.of (environmentSettings environment) = environment.entries.lookup text.variableName := by
  cases text <;> rfl

/-- Of what is loaded each field is decided on its own: the environment comes before the project, and
the project before the user. One file speaks for the project, the first of two that can be used, and
files that cannot be used set nothing. Layers may be merged in any grouping, and what is merged with
itself or with nothing stays as it was. -/
theorem load_resolves (parse : String → Option Settings) (files : FileTree)
    (environment : Environment) :
    (∃ user project,
      (∀ settings, FirstUsable parse files
        (environment.configDirectory.map fun directory =>
          Path.join (Path.join directory "dwc-bridge") "config.toml").toList settings ↔
        settings = user) ∧
      (∀ settings, FirstUsable parse files
        ("dwc-bridge.toml" :: ((environment.entries.lookup "CARGO_MANIFEST_DIR").map fun directory =>
          Path.join directory "dwc-bridge.toml").toList) settings ↔
        settings = project) ∧
      load parse files environment = combine [user, project, {
        buildDirectory := environment.entries.lookup "DWC_BUILD_DIR"
        executionMode := environment.entries.lookup "DWC_EXEC_MODE"
        simulator := environment.entries.lookup "DWC_SIMULATOR"
        padding := none }] ∧
      (∀ text : TextField, text.of (load parse files environment) =
        (environment.entries.lookup text.variableName).or
          ((text.of project).or (text.of user))) ∧
      (load parse files environment).padding = project.padding.or user.padding) ∧
    (∀ first second third : Settings,
      (first.merge second).merge third = first.merge (second.merge third)) ∧
    (∀ settings : Settings, settings.merge settings = settings) ∧
    (∀ settings : Settings, empty.merge settings = settings ∧ settings.merge empty = settings) ∧
    ∀ layers more, combine (layers ++ more) = (combine layers).merge (combine more) := by
  rw [← userFile?_eq, ← packageFile?_eq]
  refine ⟨⟨_, _, firstUsable_userSettings, firstUsable_projectSettings,
    load_eq_combine parse files environment, ?_, ?_⟩, merge_assoc, merge_self,
    fun settings => ⟨empty_merge settings, merge_empty settings⟩, combine_append⟩
  · intro text
    rw [load_eq_combine, text.isField.combine_three, of_environmentSettings]
  · rw [load_eq_combine, isField_padding.combine_three]
    exact Option.none_or

end StreamWidth.Settings
