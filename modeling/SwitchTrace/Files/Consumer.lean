import SwitchTrace.Capture.Dump
import SwitchTrace.Files.Captures
import SwitchTrace.Timeline.Stream

/-!
# Consumers of capture files

A consumer takes the events of one capture file after the other. It keeps the pool of their
strings and the summary of the capture that it took last; a file without a capture changes
neither.

## Main definitions

* `Consumer`, `Consumer.consume` — a consumer, and what becomes of it with a file.
* `Consumer.consumeGiven` — the same for a name as it is given.
-/

namespace SwitchTrace

/-- What a consumer keeps from one file to the next. -/
structure Consumer where
  pool : StringPool
  info : TimelineInfo
deriving DecidableEq, Repr

/-- The consumer before its first file. -/
def Consumer.start : Consumer := ⟨.empty, .empty⟩

/-- Why a consumer does not get to the end of a file. -/
inductive ConsumptionFault
  /-- A time cannot be converted. -/
  | time (fault : ArithmeticFault)
  /-- The file cannot even be asked for. -/
  | file (fault : CaptureFault)

/-- What a consumer gets from a file. -/
structure Consumption where
  /-- The file held a capture. -/
  accepted : Bool
  events : List Event
  fault : Option ConsumptionFault
  consumer : Consumer
  log : List LogLine

namespace Consumer

/-- The line of the log for a file that holds no capture. -/
def refusedLog (name : String) (fault : CaptureFault) : LogLine :=
  ⟨.error, "nvtrc: " ++ name ++ ": " ++ fault.message⟩

/-- Takes the events of a capture from the source of the given name. -/
def take (s : Consumer) (name : String) (domain : TimeDomain) (c : Capture) : Consumption :=
  let info := c.timelineInfo name domain
  let delivered := (EventStream.ofCapture c domain).deliver (fun taken e => e :: taken) [] s.pool
  { accepted := true
    events := delivered.state.reverse
    fault := delivered.fault.map .time
    consumer := ⟨delivered.pool, info⟩
    log := (c.summary name).map (LogLine.mk .info) ++ delivered.log info.source }

/-- Takes the events of the capture file with the given name. The name stays as it is given
wherever it is shown. A file without a capture is noted in the log if the fault has a code. -/
def consume (s : Consumer) (t : FileTree) (name : String) (domain : TimeDomain) : Consumption :=
  let read := t.loadCapture (.ofText name)
  match read.outcome with
  | .error fault =>
    if fault.diagnostic?.isSome then ⟨false, [], none, s, read.log ++ [refusedLog name fault]⟩
    else ⟨false, [], some (.file fault), s, read.log⟩
  | .ok c =>
    let taken := s.take name domain c
    { taken with log := read.log ++ taken.log }

/-- Takes the events of the capture file with a name as it is given. The system cannot be asked for
a file with a surrogate in its name: this is found before anything else is done, and it is not noted
in the log. -/
def consumeGiven (s : Consumer) (t : FileTree) (name : FileName) (domain : TimeDomain) :
    Except FileName Consumption :=
  match name.text? with
  | none => .error name
  | some text => .ok (s.consume t text domain)

end Consumer

end SwitchTrace
