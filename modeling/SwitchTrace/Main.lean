import SwitchTrace.Command.Run

/-!
# The program

The program finds out which files a command may use, takes them over into a tree of files, runs
the command on it, and writes the file that the command has changed.

## Main definitions

* `main` — the program.
-/

namespace SwitchTrace.Program

/-- What is at a place of the system, given by its text. -/
def look (text : String) : IO (Option Entry) := do
  try
    return some (.file (← IO.FS.readBinFile text).toList)
  catch
    | .inappropriateType _ 21 _ => return some .directory
    | _ => return none

/-- The paths that begin a path, the shortest first and the path itself last. -/
def ancestry (path : Path) : List Path :=
  (List.range path.names.length).map fun n => { path with names := path.names.take (n + 1) }

/-- The tree with what is on the way to a path and at its end. -/
def take (t : FileTree) (path : Path) : IO FileTree := do
  let mut t := t
  for path in ancestry path do
    if let .ok place := t.locate path then
      if (t.content? place).isNone then
        if let some entry ← look path.text then
          t := t.put place entry
  return t

/-- The tree of the working directory. -/
def workingTree : IO FileTree := do
  let working := (Path.ofText (← IO.currentDir).toString).names
  let places := (List.range working.length).map fun n => working.take (n + 1)
  return ⟨places.map fun place => (place, .directory), working⟩

/-- The variables on which the settings of files depend. -/
def environment (t : FileTree) (paths : List Path) : IO Environment := do
  let names := paths.flatMap fun path =>
    match Settings.dataOfFile .yaml t path with
    | .ok data => data.variableNames
    | .error _ => []
  ("HOME" :: names).filterMapM fun name => do
    return (← IO.getEnv name).map fun value => (name, value)

/-- What a command finds. -/
def workspace (command : Command) : IO Workspace := do
  let env ← environment ⟨[], []⟩ []
  let configs := command.configs ++ ((Settings.home? none env).map Settings.searchPaths).getD []
  let paths := configs ++ command.inputs ++ command.output?.toList
  let files ← paths.foldlM take (← workingTree)
  return ⟨files, ← environment files configs⟩

/-- Writes the file that a command has changed. -/
def write (command : Command) (before after : FileTree) : IO Unit := do
  if let some path := command.output? then
    if let .ok data := after.read path then
      if (before.read path).toOption != some data then
        IO.FS.writeBinFile path.text (ByteArray.mk data.toArray)

/-- The message for a fault that no command reports. -/
def faultMessage : CommandFault → String
  | .settings fault => fault.message
  | .logLevel _ => "the logging level is no level"
  | .capture fault => fault.message
  | .exporting (.arithmetic fault) => fault.message
  | .exporting (.nonpositiveDivisor divisor) => nonpositiveDivisorMessage divisor
  | .exporting .longNumber => longNumberMessage
  | .exporting _ => "the settings ask for no document"
  | .output path fault => fault.message path
  | .synthesis fault => fault.message
  | .wording fault => fault.message
  | .markup (.nothingToClose tag) => "closing tag '" ++ tag ++ "' has nothing to close"
  | .markup (.arguments text) => "arguments '" ++ text ++ "' are no literal values"
  | .markup (.colour name) => "'" ++ name ++ "' is no colour"

/-- Shows how a command ended. The answer is the exit code. -/
def finish (ending : Ending) : IO UInt32 := do
  match ending with
  | .finished output => IO.print output
  | .failed errors => IO.eprint errors
  | .escaped fault => IO.eprintln ("Error: " ++ faultMessage fault)
  return ending.exitCode.toUInt32

end SwitchTrace.Program

open SwitchTrace Program in
/-- Runs the command that the arguments give. The exit code is two if they give none. -/
def main (args : List String) : IO UInt32 := do
  match Command.ofArguments? args with
  | none =>
    IO.eprintln "Usage: nvtrc info|dump|export|demo|config|version [OPTIONS] ARGS"
    return 2
  | some command =>
    let workspace ← workspace command
    let report := Command.run workspace command
    for line in report.log do
      IO.eprintln (line.level.name ++ " " ++ line.text)
    write command workspace.files report.files
    finish report.ending
