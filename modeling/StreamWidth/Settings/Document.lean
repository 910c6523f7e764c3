import StreamWidth.Settings
import StreamWidth.Toml.Document
import StreamWidth.Toml.Record

/-!
Settings as a document states them. A document that is malformed, or that states a field of a wrong
kind, states no settings at all.
-/

namespace StreamWidth.Settings

def optionalField {α : Type} (record : Toml.Record) (index : Nat) (name : String)
    (read : Toml.Value → Option α) : Option (Option α) :=
  record.optional index name none fun value => (read value).map some

def ofToml? (entries : Toml.Entries) : Option Settings := do
  let record := Toml.Record.named entries
  return {
    buildDirectory := ← optionalField record 0 "build_dir" Toml.Value.string?
    executionMode := ← optionalField record 1 "exec_mode" Toml.Value.string?
    simulator := ← optionalField record 2 "simulator" Toml.Value.string?
    padding := ← optionalField record 3 "axi_stream_padding" Toml.Value.boolean? }

def parse? (text : String) : Option Settings := do
  ofToml? (← Toml.parse? text)

end StreamWidth.Settings
