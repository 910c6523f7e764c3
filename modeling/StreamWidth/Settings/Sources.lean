import StreamWidth.Files.Tree
import StreamWidth.Settings

/-!
Where settings come from: the file of the user, a file of the project, and the environment, each
with more to say than the one before it. A file that cannot be used sets nothing. How the text of a
file is read is up to the caller.
-/

namespace StreamWidth

/-- The variables of a process whose values are text. No other variable can be read. -/
structure Environment where
  entries : List (String × String)
  configDirectory : Option String

def Environment.get? (environment : Environment) (name : String) : Option String :=
  environment.entries.lookup name

namespace Settings

def userFile? (environment : Environment) : Option String :=
  environment.configDirectory.map fun directory =>
    Path.joinAll directory ["dwc-bridge", "config.toml"]

def projectFile : String :=
  "dwc-bridge.toml"

def packageFile? (environment : Environment) : Option String :=
  (environment.get? "CARGO_MANIFEST_DIR").map fun directory => Path.join directory projectFile

def environmentSettings (environment : Environment) : Settings :=
  ⟨environment.get? "DWC_BUILD_DIR", environment.get? "DWC_EXEC_MODE",
    environment.get? "DWC_SIMULATOR", none⟩

variable (parse : String → Option Settings) (files : FileTree)

def ofFile? (path : String) : Option Settings := do
  parse (← (files.readText path).toOption)

def userSettings (environment : Environment) : Option Settings := do
  ofFile? parse files (← userFile? environment)

/-- The first of the two places whose file can be used counts alone. -/
def projectSettings (environment : Environment) : Option Settings :=
  ofFile? parse files projectFile <|> do ofFile? parse files (← packageFile? environment)

def load (environment : Environment) : Settings :=
  let user := (userSettings parse files environment).getD empty
  let project := (projectSettings parse files environment).getD empty
  (user.merge project).merge (environmentSettings environment)

end Settings

end StreamWidth
