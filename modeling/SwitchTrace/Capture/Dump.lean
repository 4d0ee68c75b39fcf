import SwitchTrace.Capture.Basic
import SwitchTrace.Value.Show

/-!
# Captures as text

A capture is written piece by piece: a block for each device, and a heading for each device with a
line for each of its records. A process with too many digits has no line, and ends the writing
after the pieces before it.

## Main definitions

* `Written` — what is written piece by piece, up to a fault.
* `Capture.written`, `Capture.dump` — a capture as it is written, and its text.
* `Capture.summary` — two lines for each device.
-/

namespace SwitchTrace

/-- What is written piece by piece: the text, and the fault that ends the writing if there is
one. -/
structure Written where
  text : String
  fault : Option WordingFault
deriving DecidableEq, Repr

namespace Written

/-- A text that is written as a whole. -/
def done (text : String) : Written := ⟨text, none⟩

/-- Writes on, unless a fault has ended the writing. -/
def andThen (w rest : Written) : Written :=
  match w.fault with
  | none => ⟨w.text ++ rest.text, rest.fault⟩
  | some fault => ⟨w.text, some fault⟩

end Written

/-- The block of a device with the given number. -/
def Device.dump (index : Nat) (d : Device) : String :=
  "Device " ++ toString index ++ ":\n" ++
  "\tName: " ++ d.name ++ "\n" ++
  "\tUUID: \x7b" ++ d.uuid.printed ++ "\x7d\n" ++
  "\tSupports GPU context-switch trace: " ++ d.traceErrorMeaning.supportMessage ++ "\n" ++
  "\tTimestamps for synchronization (raw values, in hex):\n" ++
  "\t  CPU start: " ++ Pad.hex d.cpuStart ++ " GPU start: " ++ Pad.hex d.gpuStart ++ "\n" ++
  "\t  CPU end:   " ++ Pad.hex d.cpuEnd ++ " GPU end:   " ++ Pad.hex d.gpuEnd ++ "\n"

/-- What the kind of a record is called in a dump. -/
def SwitchKind.eventLabel : SwitchKind → String
  | .switchedIn => "Context Start"
  | .switchedOut => "Context Stop"
  | .invalid | .unrecognized => "<Other>"

namespace Record

/-- The line of a record: label and process in columns that wide texts overflow, time and
context in hexadecimal. -/
def line (r : Record) : String :=
  "\tTimestamp: 0x" ++ Pad.hexField 16 r.timestamp ++
  " | Event: " ++ Pad.right 13 r.switchKind.eventLabel ++
  " | PID: " ++ Pad.right 10 (toString r.process) ++
  " | ContextID: 0x" ++ Pad.hexField 8 r.handle ++ "\n"

/-- Writes the line of a record, which has to be complete before any of it is written. -/
def written (r : Record) : Written :=
  if isLong r.process then ⟨"", some .longNumber⟩ else .done r.line

/-- Writes the lines of records. -/
def allWritten : List Record → Written
  | [] => .done ""
  | r :: rs => r.written.andThen (allWritten rs)

end Record

namespace Capture

/-- The blocks of devices, numbered from the given number on. -/
def dumpDevices : Nat → List Track → String
  | _, [] => ""
  | index, t :: ts => t.device.dump index ++ dumpDevices (index + 1) ts

/-- The heading of the records of the device with the given number. -/
def recordsHeading (index : Nat) : String := "Device " ++ toString index ++ " records:\n"

/-- Writes the records of each device under a heading, numbered from the given number on. -/
def recordsWritten : Nat → List Track → Written
  | _, [] => .done ""
  | index, t :: ts =>
    (Written.done (recordsHeading index)).andThen
      ((Record.allWritten t.records).andThen (recordsWritten (index + 1) ts))

/-- Writes a capture: the blocks of its devices, then its records, each part if wanted. -/
def written (c : Capture) (showDevices showRecords : Bool) : Written :=
  (Written.done (if showDevices then dumpDevices 0 c.tracks else "")).andThen
    (if showRecords then recordsWritten 0 c.tracks else .done "")

/-- The text that is written of a capture. -/
def dump (c : Capture) (showDevices showRecords : Bool) : String :=
  (c.written showDevices showRecords).text

/-- Two lines for each device of a source, numbered from the given number on. -/
def summaryLines (source : String) : Nat → List Track → List String
  | _, [] => []
  | index, t :: ts =>
    let start := "nvtrc: " ++ source ++ ": GPU device #" ++ toString index
    (start ++ " is " ++ t.device.name) ::
      (start ++ " has " ++ toString t.records.length ++ " records") ::
      summaryLines source (index + 1) ts

/-- Two lines for each device of a source, numbered from one. -/
def summary (source : String) (c : Capture) : List String := summaryLines source 1 c.tracks

end Capture

end SwitchTrace
