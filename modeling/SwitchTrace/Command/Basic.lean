import SwitchTrace.Command.Options
import SwitchTrace.Files.Path
import SwitchTrace.Numeric.NumberText

/-!
# Commands

## Main definitions

* `Command` — what the command line asks for.
* `Command.ofArguments?` — the command that arguments give.
* `Command.configs`, `Command.inputs`, `Command.output?` — the files that a command uses.
-/

namespace SwitchTrace

/-- A capture, and what is common to all commands that read one. -/
structure ReadRequest where
  source : Path
  /-- The settings file. -/
  config : Option Path
  /-- All lines of the log are shown. -/
  verbose : Bool
deriving DecidableEq, Repr

/-- A capture to be exported. What is given here counts more than the settings. -/
structure ExportRequest extends ReadRequest where
  output : Path
  /-- Device time is kept. -/
  rawGpu : Option Bool
  timeDivisor : Option Binary64
deriving DecidableEq

/-- A demonstration capture to be made. -/
structure DemoRequest where
  output : Path
  deviceCount : Nat
  recordsPerDevice : Nat
  seed : Int
deriving DecidableEq, Repr

/-- What the command line asks for. -/
inductive Command
  /-- A table of the devices of a capture. -/
  | info (request : ReadRequest)
  /-- A capture as text, each part shown or not as asked for. -/
  | dump (request : ReadRequest) (devices records : Option Bool)
  /-- A capture as a trace-event document. -/
  | export (request : ExportRequest)
  /-- A demonstration capture. -/
  | demo (request : DemoRequest)
  /-- Something with a settings file. -/
  | config (action : String) (path : Option Path)
  /-- The version of the program. -/
  | version
deriving DecidableEq

/-- What options set. -/
inductive Setting
  | config
  | verbose
  | devices
  | records
  | output
  | rawGpu
  | timeDivisor
  | seed
deriving DecidableEq, Repr

namespace Command

/-! ### Options -/

/-- The options for a settings file. -/
def configRules : List (OptionRule Setting) :=
  [⟨"-c", .value .config⟩, ⟨"--config", .value .config⟩]

/-- The options for a full log. -/
def verboseRules : List (OptionRule Setting) :=
  [⟨"-v", .switch .verbose true⟩, ⟨"--verbose", .switch .verbose true⟩]

/-- The options of `info`. -/
def infoRules : List (OptionRule Setting) := configRules ++ verboseRules

/-- The options of `dump`. -/
def dumpRules : List (OptionRule Setting) :=
  [⟨"--devices", .switch .devices true⟩, ⟨"--no-devices", .switch .devices false⟩,
    ⟨"--records", .switch .records true⟩, ⟨"--no-records", .switch .records false⟩] ++ configRules

/-- The options of `export`. -/
def exportRules : List (OptionRule Setting) :=
  [⟨"-o", .value .output⟩, ⟨"--output", .value .output⟩, ⟨"--raw-gpu", .switch .rawGpu true⟩,
    ⟨"--cpu-time", .switch .rawGpu false⟩, ⟨"--time-divisor", .value .timeDivisor⟩] ++
    configRules ++ verboseRules

/-- The options of `demo`. -/
def demoRules : List (OptionRule Setting) :=
  [⟨"--devices", .value .devices⟩, ⟨"--records", .value .records⟩, ⟨"--seed", .value .seed⟩]

/-! ### Values -/

/-- A value that need not be given, but is right if it is. -/
def optional {α : Type} (a : Arguments Setting) (key : Setting) (read? : String → Option α) :
    Option (Option α) :=
  match a.text? key with
  | none => some none
  | some s => (read? s).map some

/-- The path of a text. No path holds the character with the number zero. -/
def readPath? (s : String) : Option Path :=
  if s.toList.contains '\x00' then none else some (.ofText s)

/-- A whole number that is not negative. -/
def readCount? (s : String) : Option Nat := do
  let n ← NumberText.readInt? s
  if n < 0 then none else some n.toNat

/-- The capture that arguments name, with the options that are common to commands. -/
def readRequest? (a : Arguments Setting) : Option ReadRequest := do
  let config ← optional a .config readPath?
  match a.operands with
  | [source] => return {
      source := ← readPath? source
      config
      verbose := (a.switch? .verbose).getD false }
  | _ => none

/-- The request of `export`. The output has to be given. -/
def exportRequest? (a : Arguments Setting) : Option ExportRequest := do
  let request ← readRequest? a
  let output ← readPath? (← a.text? .output)
  let timeDivisor ← optional a .timeDivisor NumberText.readFloat?
  return { request with output, rawGpu := a.switch? .rawGpu, timeDivisor }

/-- The request of `demo`. -/
def demoRequest? (a : Arguments Setting) : Option DemoRequest := do
  let deviceCount ← optional a .devices readCount?
  let recordsPerDevice ← optional a .records readCount?
  let seed ← optional a .seed NumberText.readInt?
  match a.operands with
  | [output] => return {
      output := ← readPath? output
      deviceCount := deviceCount.getD 1
      recordsPerDevice := recordsPerDevice.getD 100
      seed := seed.getD 42 }
  | _ => none

/-- The command of the given name with the given arguments. -/
def ofName? (name : String) (args : List String) : Option Command :=
  match name with
  | "info" => do return .info (← readRequest? (← Arguments.read? infoRules args))
  | "dump" => do
    let a ← Arguments.read? dumpRules args
    return .dump (← readRequest? a) (a.switch? .devices) (a.switch? .records)
  | "export" => do return .export (← exportRequest? (← Arguments.read? exportRules args))
  | "demo" => do return .demo (← demoRequest? (← Arguments.read? demoRules args))
  | "config" => do
    match (← Arguments.read? ([] : List (OptionRule Setting)) args).operands with
    | [action] => return .config action none
    | [action, path] => return .config action (some (← readPath? path))
    | _ => none
  | "version" => do
    match (← Arguments.read? ([] : List (OptionRule Setting)) args).operands with
    | [] => return .version
    | _ => none
  | _ => none

/-- The command that arguments give; none if they break the rules of the command line. Two
dashes may come before the name of the command. -/
def ofArguments? : List String → Option Command
  | "--" :: name :: args => ofName? name args
  | name :: args => ofName? name args
  | [] => none

/-! ### Files -/

/-- The settings files that a command may read apart from those that are looked for. -/
def configs : Command → List Path
  | .info request | .dump request _ _ => request.config.toList
  | .export request => request.config.toList
  | .config _ path => path.toList
  | .demo _ | .version => []

/-- The captures that a command reads. -/
def inputs : Command → List Path
  | .info request | .dump request _ _ => [request.source]
  | .export request => [request.source]
  | .config _ _ | .demo _ | .version => []

/-- The file that a command writes. -/
def output? : Command → Option Path
  | .export request => some request.output
  | .demo request => some request.output
  | .info _ | .dump _ _ _ | .config _ _ | .version => none

end Command

end SwitchTrace
