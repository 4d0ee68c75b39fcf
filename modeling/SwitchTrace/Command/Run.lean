import SwitchTrace.Capture.Dump
import SwitchTrace.Command.Basic
import SwitchTrace.Command.Platform
import SwitchTrace.Settings.Template
import SwitchTrace.Settings.Threshold
import SwitchTrace.Synthetic.Demo

/-!
# What commands do

A command reads files and variables of the environment, may write one file, and ends in one of
three ways: it finishes with an output, it reports errors, or a fault that no command reports
gets past it. What reads settings and shows texts is the platform that it runs on.

## Main definitions

* `Workspace` — what a command finds.
* `ReportOf`, `EndingOf`, `CommandFaultOf` — what a command leaves behind, with faults of any
  platform; `Report`, `Ending` and `CommandFault` on the standard one.
* `Command.runOn`, `Command.run` — the report of a command, on any platform and on the standard one.
-/

namespace SwitchTrace

/-- What a command finds. -/
structure Workspace where
  files : FileTree
  env : Environment

/-- A fault that a command does not report. `φ` are the faults of reading settings and `ψ` those of
showing texts. -/
inductive CommandFaultOf (φ ψ : Type)
  | settings (fault : LoadFaultOf φ)
  | logLevel (fault : LevelFault)
  | capture (fault : CaptureFault)
  | exporting (fault : ExportFault)
  | output (path : Path) (fault : FileFault)
  | synthesis (fault : SynthesisFault)
  | markup (fault : ψ)
  | wording (fault : WordingFault)

/-- How a command ends. -/
inductive EndingOf (φ ψ : Type)
  /-- It did what it was asked for. -/
  | finished (output : String)
  /-- It reported what was wrong. -/
  | failed (errors : String)
  /-- A fault got past it. -/
  | escaped (fault : CommandFaultOf φ ψ)

/-- The exit code of an end. -/
def EndingOf.exitCode {φ ψ : Type} : EndingOf φ ψ → Nat
  | .finished _ => 0
  | .failed _ | .escaped _ => 1

/-- What a command leaves behind. -/
structure ReportOf (φ ψ : Type) where
  ending : EndingOf φ ψ
  /-- The lines of the log that are shown. -/
  log : List LogLine
  files : FileTree

/-- A fault that a command does not report on the standard platform. -/
abbrev CommandFault := CommandFaultOf Yaml.Fault MarkupFault

/-- How a command ends on the standard platform. -/
abbrev Ending := EndingOf Yaml.Fault MarkupFault

/-- What a command leaves behind on the standard platform. -/
abbrev Report := ReportOf Yaml.Fault MarkupFault

/-- The version of the program. -/
def programVersion : String := "1.0.0"

namespace Command

variable {φ ψ : Type}

/-! ### Messages -/

section Platform

variable (p : Platform φ ψ)

/-- What is shown of texts with markup, one after the other. -/
def printAll (texts : List String) : Except ψ String :=
  String.join <$> texts.mapM p.console.print

/-- The end of a command with errors to report, as far as they can be shown. -/
def failureOf (errors : Except ψ String) : EndingOf φ ψ :=
  match errors with
  | .ok errors => .failed errors
  | .error fault => .escaped (.markup fault)

/-- The end of a command with errors to report. -/
def failure (texts : List String) : EndingOf φ ψ := failureOf (printAll p texts)

/-- The end of a command with an output. -/
def success (output : Except ψ String) : EndingOf φ ψ :=
  match output with
  | .ok output => .finished output
  | .error fault => .escaped (.markup fault)

/-- The texts that report what is wrong with settings. -/
def complaintTexts (complaints : List Complaint) : List String :=
  "[red]Invalid configuration:[/]" :: complaints.map fun c => "  - " ++ c.message

/-- The text that reports a fault with the given message. -/
def errorText (message : String) : String := "[red]Error:[/] " ++ p.console.escape message

/-- The text that reports a fault in a file. -/
def faultText (source : Path) (fault : CaptureFault) : String :=
  errorText p source.text ++ ": " ++ p.console.escape fault.message

/-! ### Captures -/

/-- The report of a command that reads a capture: that of `body`, which learns from which rank on
lines of the log are shown, or that of a capture that cannot be read. Faults of a capture that
have no code are not reported. -/
def withCapture (w : Workspace) (source : Path) (threshold : Nat)
    (body : Capture → List LogLine → ReportOf φ ψ) : ReportOf φ ψ :=
  let read := w.files.loadCapture source
  let log := read.log.filter (LogLine.isShown threshold)
  match read.outcome with
  | .ok c => body c log
  | .error fault =>
    if fault.diagnostic?.isSome then ⟨failure p [faultText p source fault], log, w.files⟩
    else ⟨.escaped (.capture fault), log, w.files⟩

/-- The report of a command with settings: that of `body`, which learns from which rank on lines
of the log are shown, or that of settings that cannot be used. -/
def withSettings (w : Workspace) (request : ReadRequest)
    (body : Settings → Nat → ReportOf φ ψ) : ReportOf φ ψ :=
  match Settings.searchWith p.format p.knownHome w.env w.files request.config with
  | .error fault => ⟨.escaped (.settings fault), [], w.files⟩
  | .ok settings =>
    match settings.threshold request.verbose with
    | .error fault => ⟨.escaped (.logLevel fault), [], w.files⟩
    | .ok threshold => body settings threshold

/-- The row of a device with the given number. -/
def deviceRow (index : Nat) (t : Track) : List String :=
  [toString index, p.console.escape t.device.name, t.device.uuid.printed,
    t.device.traceErrorMeaning.supportMessage, Pad.grouped t.records.length]

/-- The rows of devices, numbered from the given number on. -/
def deviceRows : Nat → List Track → List (List String)
  | _, [] => []
  | index, t :: ts => deviceRow p index t :: deviceRows (index + 1) ts

/-- The table of the devices of a capture. -/
def deviceTable (source : Path) (c : Capture) : Table where
  title := source.text
  columns := [⟨"#", .right⟩, ⟨"Name", .left⟩, ⟨"UUID", .left⟩, ⟨"Ctx-switch trace", .left⟩,
    ⟨"Records", .right⟩]
  rows := deviceRows p 1 c.tracks

/-- The output of `info`: the table of the devices, and how many devices and records there
are. -/
def infoOutput (source : Path) (c : Capture) : Except ψ String := do
  let table ← p.console.printTable (deviceTable p source c)
  let totals ← p.console.print ("Devices: " ++ toString c.deviceCount ++ "  Records: " ++
    Pad.grouped c.recordCount)
  return table ++ totals

/-- Shows the devices of a capture. -/
def runInfo (w : Workspace) (request : ReadRequest) : ReportOf φ ψ :=
  withSettings p w request fun _ threshold =>
    withCapture p w request.source threshold fun c log =>
      ⟨success (infoOutput p request.source c), log, w.files⟩

/-- Shows a capture as text, if all of it can be written. Which parts are shown is a matter of the
settings unless it is asked for. -/
def runDump (w : Workspace) (request : ReadRequest) (devices records : Option Bool) :
    ReportOf φ ψ :=
  withSettings p w request fun settings threshold =>
    withCapture p w request.source threshold fun c log =>
      let written := c.written (devices.getD settings.output.showDevices.isTruthy)
        (records.getD settings.output.showRecords.isTruthy)
      match written.fault with
      | none => ⟨.finished (p.console.echo written.text), log, w.files⟩
      | some fault => ⟨.escaped (.wording fault), log, w.files⟩

/-! ### Export -/

/-- The settings with what a request gives. -/
def overlay (request : ExportRequest) (settings : Settings) : Settings :=
  { settings with
    timestamps :=
      match request.rawGpu with
      | some b => ⟨.bool b⟩
      | none => settings.timestamps
    exporting :=
      match request.timeDivisor with
      | some x => { settings.exporting with timeDivisor := .float x }
      | none => settings.exporting }

/-- The clock that the settings ask for. -/
def timeDomain (settings : Settings) : TimeDomain :=
  if settings.timestamps.rawGpu.isTruthy then .device else .processor

/-- The document of a capture and its text, as the settings ask for them and if there is room for
so many blanks in an indentation. -/
def exported (room : Nat) (settings : Settings) (source : Path) (c : Capture) :
    Except ExportFault (TraceDocument × String) := do
  let document ← TraceDocument.ofCapture c source.text (timeDomain settings) .empty
    settings.exporting.timeDivisor
  let text ← document.render settings.exporting.indent room
  return (document, text)

/-- The message for a written document. -/
def writtenText (output : Path) (document : TraceDocument) : String :=
  "[green]Written to:[/] " ++ output.text ++ " (" ++ Pad.grouped document.events.length ++
    " events)"

/-- Writes the document of a capture, when its text is complete. -/
def writeExport (w : Workspace) (request : ExportRequest) (settings : Settings) (threshold : Nat)
    (c : Capture) (log : List LogLine) : ReportOf φ ψ :=
  match exported p.indentRoom settings request.source c with
  | .error fault => ⟨.escaped (.exporting fault), log, w.files⟩
  | .ok (document, text) =>
    match w.files.write request.output (Utf8.encode text) with
    | .error fault => ⟨.escaped (.output request.output fault), log, w.files⟩
    | .ok files =>
      let written := [document.writtenLog request.output.text].filter
        (LogLine.isShown threshold)
      ⟨success (p.console.print (writtenText request.output document)), log ++ written, files⟩

/-- Writes a capture as a document. Settings that make no sense are reported before the capture
is read. -/
def runExport (w : Workspace) (request : ExportRequest) : ReportOf φ ψ :=
  withSettings p w request.toReadRequest fun settings threshold =>
    let settings := overlay request settings
    match settings.check with
    | .ok [] =>
      withCapture p w request.source threshold (writeExport p w request settings threshold)
    | .ok complaints => ⟨failure p (complaintTexts complaints), [], w.files⟩
    | .error fault => ⟨.escaped (.wording fault), [], w.files⟩

/-! ### Demonstration captures -/

/-- The message for a demonstration capture. -/
def demoText (output : Path) (c : Capture) : String :=
  "[green]Wrote[/] " ++ output.text ++ ": " ++ toString c.deviceCount ++ " devices, " ++
    Pad.grouped c.recordCount ++ " records"

/-- Writes a demonstration capture. -/
def runDemo (w : Workspace) (request : DemoRequest) : ReportOf φ ψ :=
  match w.files.writeDemo request.output request.deviceCount request.recordsPerDevice
    request.seed with
  | .ok (c, files) => ⟨success (p.console.print (demoText request.output c)), [], files⟩
  | .error (.synthesis fault) => ⟨.escaped (.synthesis fault), [], w.files⟩
  | .error (.capture fault) =>
    if fault.diagnostic?.isSome then
      ⟨failure p [errorText p fault.message], [], w.files⟩
    else ⟨.escaped (.capture fault), [], w.files⟩

/-! ### Settings -/

/-- A fault of settings is reported when they are checked. Data that are no mapping are not, and of
the faults of reading data the format tells. -/
def isReported : LoadFaultOf φ → Bool
  | .shape .notAMapping => false
  | .yaml fault => p.format.isReported fault
  | .noHome => false
  | _ => true

/-- The text that tells that a settings file is valid. -/
def validText (path : Path) : String := "[green]Valid:[/] " ++ path.text

/-- The end of a check of a settings file. -/
def validateEnding (path : Path) (loaded : Except (LoadFaultOf φ) Settings) : EndingOf φ ψ :=
  match loaded with
  | .error fault =>
    if isReported p fault then failure p [errorText p (fault.messageOf p.format.message)]
    else .escaped (.settings fault)
  | .ok settings =>
    match settings.check with
    | .ok [] => success (p.console.print (validText path))
    | .ok complaints => failure p (complaintTexts complaints)
    | .error fault => .escaped (.wording fault)

/-- The end of showing settings as a settings file. -/
def dumpEnding (loaded : Except (LoadFaultOf φ) Settings) : EndingOf φ ψ :=
  match loaded with
  | .error fault => .escaped (.settings fault)
  | .ok settings =>
    match p.format.write settings.toMapping with
    | .ok text => .finished (p.console.echo text)
    | .error fault => .escaped (.wording fault)

/-- The end of an action that there is not. Unlike other reports this one is highlighted. -/
def unknownAction (action : String) : EndingOf φ ψ :=
  failureOf do
    let unknown ← p.console.printHighlighted ("[red]Unknown action:[/] " ++ action)
    return unknown ++ (← p.console.print "Valid actions: init, validate, dump")

/-- The end of an action with a settings file. -/
def configEnding (w : Workspace) (action : String) (path : Option Path) : EndingOf φ ψ :=
  match action, path with
  | "init", _ => .finished (p.console.echo Settings.template)
  | "validate", none => failure p ["[red]Path required for validate[/]"]
  | "validate", some path =>
    validateEnding p path (Settings.loadWith p.format w.env w.files path)
  | "dump", some path => dumpEnding p (Settings.loadWith p.format w.env w.files path)
  | "dump", none => dumpEnding p (Settings.searchWith p.format p.knownHome w.env w.files none)
  | action, _ => unknownAction p action

/-! ### Commands -/

/-- What a command leaves behind. -/
def runOn (w : Workspace) : Command → ReportOf φ ψ
  | .info request => runInfo p w request
  | .dump request devices records => runDump p w request devices records
  | .export request => runExport p w request
  | .demo request => runDemo p w request
  | .config action path => ⟨configEnding p w action path, [], w.files⟩
  | .version =>
    ⟨success (p.console.print ("[bold blue]nvtrc v" ++ programVersion ++ "[/]")), [], w.files⟩

end Platform

/-- What a command leaves behind on the standard platform. -/
def run (w : Workspace) (command : Command) : Report := runOn .standard w command

end Command

end SwitchTrace
