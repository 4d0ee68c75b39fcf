import SwitchTrace.Yaml.File
import SwitchTrace.Yaml.Writer

/-!
# Formats of settings files

What reads and writes the data of settings files is a parameter of everything that is done with
them: functions from texts and files to data and back, and what their faults are like. Nothing is
taken for granted about it. A result that needs more says so, as when files with written data have
to be read as the data that were written.

## Main definitions

* `DataFormat` — what reads and writes data.
* `DataFormat.Inverts` — written data are read as what they were written for.
* `DataFormat.yaml` — YAML, as far as settings need it.
-/

namespace SwitchTrace

/-- What reads and writes data. `φ` are the faults of reading. -/
structure DataFormat (φ : Type) where
  /-- The value of a text. -/
  read : String → Except φ Value
  /-- The value of a file with the given bytes, which is opened as a text. -/
  readFile : Bytes → Except (Utf8.Fault ⊕ φ) Value
  /-- The text of a mapping, if its numbers can be put into words. -/
  write : Mapping → Except WordingFault String
  /-- The message for a fault. -/
  message : φ → String
  /-- The fault is of a kind that is reported where settings are checked. -/
  isReported : φ → Bool

namespace DataFormat

/-- YAML, as far as settings need it. Numbers that are too large to be worked with and collections
that are nested too deep are not reported. -/
def yaml : DataFormat Yaml.Fault where
  read := Yaml.load
  readFile := Yaml.loadFile
  write := Yaml.write?
  message := Yaml.Fault.message
  isReported
    | .tooLarge | .tooDeep => false
    | _ => true

end DataFormat

end SwitchTrace
