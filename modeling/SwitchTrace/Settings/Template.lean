/-!
# A settings file to start from

## Main definitions

* `Settings.template` — the text of a settings file with the defaults.
-/

namespace SwitchTrace

/-- The text of a settings file that holds the default of every setting. -/
def Settings.template : String :=
  "# nvtrc Configuration\n" ++
  "version: 1\n" ++
  "\n" ++
  "timestamps:\n" ++
  "  # Keep GPU globaltimer values instead of converting to CPU time\n" ++
  "  raw_gpu: false\n" ++
  "\n" ++
  "output:\n" ++
  "  show_devices: true\n" ++
  "  show_records: false\n" ++
  "\n" ++
  "export:\n" ++
  "  time_divisor: 1.0\n" ++
  "  indent: null\n" ++
  "\n" ++
  "logging:\n" ++
  "  level: WARNING\n"

end SwitchTrace
