import StreamWidth.Engine.Mode
import StreamWidth.Text.Lines

/-!
Settings come in layers. A layer sets some of the fields, and a later layer has the last word on each
field that it sets.
-/

namespace StreamWidth

structure Settings where
  buildDirectory : Option String
  executionMode : Option String
  simulator : Option String
  padding : Option Bool
  deriving DecidableEq

namespace Settings

def empty : Settings :=
  ⟨none, none, none, none⟩

def merge (settings later : Settings) : Settings :=
  ⟨later.buildDirectory <|> settings.buildDirectory,
    later.executionMode <|> settings.executionMode,
    later.simulator <|> settings.simulator,
    later.padding <|> settings.padding⟩

def buildDirectoryOrDefault (settings : Settings) : String :=
  settings.buildDirectory.getD "build"

def mode (settings : Settings) : Except Failure ExecutionMode :=
  match settings.executionMode with
  | some tag => ExecutionMode.ofTag tag
  | none => .ok .functional

def paddingOrDefault (settings : Settings) : Bool :=
  settings.padding.getD false

def sample : String :=
  Text.unlines [
    "# dwc-bridge configuration",
    "# Place this file at ~/.config/dwc-bridge/config.toml or ./dwc-bridge.toml",
    "",
    "# Root of generated IP (used when a node has no code_gen_dir_ipgen)",
    "build_dir = \"/home/user/build/ipgen\"",
    "",
    "# Execution mode when a node does not set exec_mode: \"functional\" or \"cosim\"",
    "# exec_mode = \"functional\"",
    "",
    "# External RTL simulator (optional, the in-process model is used otherwise)",
    "# simulator = \"/usr/local/bin/dwc-sim\"",
    "",
    "# Report stream widths padded to whole bytes",
    "# axi_stream_padding = true"]

end Settings

end StreamWidth
