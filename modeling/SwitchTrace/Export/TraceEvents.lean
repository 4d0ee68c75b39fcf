import SwitchTrace.Export.Json
import SwitchTrace.Timeline.Stream
import SwitchTrace.Value.Show

/-!
# Trace-event documents

A timeline is exported as a document of instant events, one for each event. Times are distances
from the origin of the timeline, divided by a number that the settings give. A whole divisor
gives the rounded exact quotient; for a binary64 divisor the distance is rounded first. How much
room there is for the blanks that lines are indented by is a parameter, as it depends on the
machine.

## Main definitions

* `InstantEvent`, `Event.export` — an exported event.
* `TraceDocument`, `TraceDocument.ofEvents`, `TraceDocument.ofCapture` — the whole document.
* `TraceDocument.render` — its text.
-/

namespace SwitchTrace

/-- Why there is no document. -/
inductive ExportFault
  | arithmetic (fault : ArithmeticFault)
  /-- A handle that is not in the pool. -/
  | unknownHandle
  /-- A divisor or an indentation of a kind that cannot serve as one. -/
  | wrongKind
  /-- A divisor that is zero or less. -/
  | nonpositiveDivisor (divisor : Value)
  /-- An indentation that takes up more room than there is. -/
  | longIndent
  /-- An indentation that no text can have. -/
  | hugeIndent
  /-- A number that has too many digits to be written. -/
  | longNumber

/-- The message for a divisor that is zero or less. It says so only if the divisor can be
written. -/
def nonpositiveDivisorMessage (divisor : Value) : String :=
  if divisor.holdsLong then longNumberMessage
  else "time_divisor must be positive, got " ++ divisor.shown

/-! ### Events -/

/-- An instant event of a document. -/
structure InstantEvent where
  name : String
  category : String
  timestamp : Binary64
  process : Int
deriving DecidableEq

/-- A handle looked up. -/
def StringPool.get (pool : StringPool) (handle : Int) : Except ExportFault String :=
  match pool.lookup? handle with
  | some s => .ok s
  | none => .error .unknownHandle

/-- The instant event of an event. Its texts are looked up before its time is divided. -/
def Event.export (pool : StringPool) (origin : Int) (divisor : Value) (e : Event) :
    Except ExportFault InstantEvent := do
  let name ← pool.get e.name
  let category ← pool.get e.system
  match divisor.number? with
  | none => .error .wrongKind
  | some d =>
    let timestamp ← (d.divide (e.timestamp - origin)).mapError .arithmetic
    return ⟨name, category, timestamp, e.process⟩

namespace InstantEvent

/-- The event in a document. Process and thread are the same. -/
def toJson (e : InstantEvent) : JsonValue :=
  .object [("name", .text e.name), ("cat", .text e.category), ("ph", .text "i"), ("s", .text "t"),
    ("ts", .float e.timestamp), ("pid", .int e.process), ("tid", .int e.process)]

end InstantEvent

/-! ### Documents -/

/-- A document. -/
structure TraceDocument where
  events : List InstantEvent
  source : String
  devices : String
  origin : Int

namespace TraceDocument

/-- A divisor that times can be divided by. -/
def checkDivisor (divisor : Value) : Except ExportFault Unit :=
  match divisor.number? with
  | none => .error .wrongKind
  | some d => if d.isNonpositive then .error (.nonpositiveDivisor divisor) else .ok ()

/-- The document of a timeline. The divisor is checked before the first event is exported. -/
def ofEvents (info : TimelineInfo) (events : List Event) (pool : StringPool) (divisor : Value) :
    Except ExportFault TraceDocument := do
  checkDivisor divisor
  let exported ← events.mapM (Event.export pool info.origin divisor)
  return ⟨exported, info.source, info.label, info.origin⟩

/-- The document of the events of a stream. An event is exported as soon as the stream has made
it, so that of two faults the one of the earlier event counts. -/
def ofDrained (info : TimelineInfo) (drained : Drained) (divisor : Value) :
    Except ExportFault TraceDocument := do
  let document ← ofEvents info drained.events drained.pool divisor
  match drained.fault with
  | none => return document
  | some f => .error (.arithmetic f)

/-- The document of a capture. -/
def ofCapture (c : Capture) (source : String) (domain : TimeDomain) (pool : StringPool)
    (divisor : Value) : Except ExportFault TraceDocument :=
  ofDrained (c.timelineInfo source domain) ((EventStream.ofCapture c domain).drain pool) divisor

/-- The document as one value. -/
def toJson (d : TraceDocument) : JsonValue :=
  .object [("traceEvents", .list (d.events.map InstantEvent.toJson)),
    ("metadata", .object [("source", .text d.source), ("devices", .text d.devices),
      ("origin", .int d.origin)])]

/-- The layout that a value asks for: nothing for one line, a number for as many blanks if there is
room for them, and a text for itself. No text is longer than the largest number of its length
field. -/
def layoutOf (room : Nat) (indent : Value) : Except ExportFault JsonLayout :=
  match indent with
  | .scalar .null => .ok .oneLine
  | .scalar (.text s) => .ok (.lines s)
  | v =>
    match v.wholeNumber? with
    | none => .error .wrongKind
    | some n =>
      if ¬ IntField.i64.Holds n then .error .hugeIndent
      else if room < n then .error .longIndent
      else .ok (.lines (String.ofList (List.replicate n.toNat ' ')))

/-- The room for an indentation where no other is given. -/
def standardRoom : Nat := 0x10000000

/-- A number of the document has too many digits to be written. -/
def holdsLong (d : TraceDocument) : Bool :=
  isLong d.origin || d.events.any fun e => isLong e.process

/-- The text of a document, where there is room for an indentation of so many blanks. The
indentation is made before the first number is written. -/
def render (d : TraceDocument) (indent : Value) (room : Nat := standardRoom) :
    Except ExportFault String := do
  let layout ← layoutOf room indent
  if d.holdsLong then .error .longNumber else return d.toJson.render layout

/-- The line of the log for a written document. -/
def writtenLog (d : TraceDocument) (path : String) : LogLine :=
  ⟨.info, "Wrote " ++ toString d.events.length ++ " events to " ++ path⟩

end TraceDocument

end SwitchTrace
