import StreamWidth.Files.Tree
import StreamWidth.Pattern
import StreamWidth.Toml.Document
import StreamWidth.Toml.Record

/-!
Descriptions of converters on disk: the signature, the attribute table, and perhaps a pattern for a
test input.
-/

namespace StreamWidth

structure NodeDescription where
  signature : Signature
  attributes : AttributeTable
  pattern : Option Pattern

namespace NodeDescription

def readSignature (value : Toml.Value) : Option Signature := do
  let record ← value.record?
  return {
    name := ← record.required 0 "name" Toml.Value.string?
    domain := ← record.optional 1 "domain" "" Toml.Value.string?
    inputs := ← record.optional 2 "inputs" [] Toml.Value.strings?
    outputs := ← record.optional 3 "outputs" [] Toml.Value.strings? }

def readAttribute : Toml.Value → Option AttributeValue
  | .integer value => some (.int value)
  | .string text => some (.string text)
  | value => value.integers?.map .ints

def readTable (entries : Toml.Entries) : Option AttributeTable := do
  return .ofList (← List.mapM (fun entry => do return (entry.1, ← readAttribute entry.2)) entries)

def dateTimeKey : String :=
  "$__toml_private_datetime"

/-- A date or time counts as a table with its text as the one entry. -/
def readAttributes : Toml.Value → Option AttributeTable
  | .table _ entries => readTable entries
  | .dateTime text => some (.ofList [(dateTimeKey, .string text)])
  | _ => none

def readPattern (value : Toml.Value) : Option Pattern := do
  let record ← value.record?
  return {
    kind := ← record.required 0 "type" Toml.Value.string?
    start := ← record.optional 1 "start" 0 Toml.Value.integer?
    step := ← record.optional 2 "step" Pattern.defaultStep Toml.Value.integer?
    value := ← record.optional 3 "value" 0 Toml.Value.integer? }

def readInput (value : Toml.Value) : Option Pattern := do
  (← value.record?).required 0 "pattern" readPattern

def ofToml? (entries : Toml.Entries) : Option NodeDescription := do
  let record := Toml.Record.named entries
  return {
    signature := ← record.required 0 "node" readSignature
    attributes := ← record.required 1 "attributes" readAttributes
    pattern := ← record.optional 2 "input" none fun value => (readInput value).map some }

def parse (text : String) : Except Failure NodeDescription :=
  match Toml.parse? text with
  | none => .error (.configuration (.malformedDescription "not a TOML document"))
  | some entries =>
      match ofToml? entries with
      | none => .error (.configuration (.malformedDescription "fields missing or of a wrong type"))
      | some description => .ok description

def ofFile (files : FileTree) (path : String) : Except Failure NodeDescription :=
  match files.readText path with
  | .error cause => .error (.configuration (.unreadable path cause))
  | .ok text => (parse text).mapError (.inPlace path)

def build (description : NodeDescription) : Except Failure Converter :=
  (Converter.ofTable description.signature description.attributes).mapError
    (.inPlace description.signature.name)

def generateInput (description : NodeDescription) (converter : Converter) :
    Except Failure (Option Tensor) :=
  match description.pattern with
  | none => .ok none
  | some pattern => (pattern.generate converter).map some

end NodeDescription

end StreamWidth
