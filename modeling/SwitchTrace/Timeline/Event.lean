import SwitchTrace.Capture.Basic

/-!
# Events of a timeline

An event is what a timeline shows for one record. Its texts are handles of a string pool, or the
strings themselves when it is seen through a pool. The summary of a capture names its devices and
the origin of its timeline.

## Main definitions

* `EventOf`, `Event` — events with texts of any type, and those with handles.
* `EventOf.ofTexts` — the event with the given texts and all else not set.
* `TimelineInfo`, `Capture.timelineInfo` — the summary of a capture.
-/

namespace SwitchTrace

/-- An event of a timeline with texts of the given type. -/
structure EventOf (τ : Type) where
  process : Int
  timestamp : Int
  name : τ
  system : τ
  command : τ
  userCommand : τ
  id : Int
  cpu : Int
  flags : Int
  sequence : Int
  startId : Int
  row : Int
  display : Int
  color : Int
  duration : Int
deriving DecidableEq, Repr, Inhabited

/-- An event of a timeline. Its texts are handles. -/
abbrev Event := EventOf Int

namespace Event

/-- The mark of an identifier that is not assigned. -/
def noId : Int := -1

/-- The mark of a display that is not there. -/
def noDisplay : Int := -1

/-- The mark of a duration that is not set: the greatest number of 64 bits with a sign. -/
def noDuration : Int := 9223372036854775807

/-- The flag of events whose color the viewer picks. -/
def autoColor : Int := 1

/-- The duration is set. -/
def hasDuration (e : Event) : Bool := e.duration != noDuration

/-! ### Texts -/

/-- The system of all events. -/
def systemText : String := "nvcontext"

/-- The command of all events. -/
def commandText : String := "(event_comm)"

/-- The user command of all events. -/
def userCommandText : String := "(event_usercomm)"

/-- The name of the events of a kind of context switch. -/
def nameText (kind : Int) : String := "(event_name:" ++ SwitchKind.label kind ++ ")"

end Event

/-- The event with the given texts and all else not set. -/
def EventOf.ofTexts {τ : Type} (process timestamp : Int) (name system command userCommand : τ) :
    EventOf τ where
  process
  timestamp
  name
  system
  command
  userCommand
  id := Event.noId
  cpu := 0
  flags := Event.autoColor
  sequence := 0
  startId := Event.noId
  row := 0
  display := Event.noDisplay
  color := 0
  duration := Event.noDuration

/-- The summary of a capture. -/
structure TimelineInfo where
  /-- A label made of the names of the devices. -/
  label : String
  /-- Times are those of the viewer. -/
  timesInMicroseconds : Bool
  cpus : Int
  source : String
  /-- The origin of the timeline. -/
  origin : Int
deriving DecidableEq, Repr, Inhabited

/-- The summary of no capture. -/
def TimelineInfo.empty : TimelineInfo := ⟨"", false, 0, "", 0⟩

/-- The clock in which the events of a timeline are given. -/
inductive TimeDomain
  | processor
  | device
deriving DecidableEq, Repr, Inhabited

/-- The reading of a clock at the start of the capture. -/
def TimeDomain.start : TimeDomain → Device → Int
  | .processor, d => d.cpuStart
  | .device, d => d.gpuStart

namespace Capture

/-- The least reading at the start over all devices, or zero if there are none. -/
def origin (c : Capture) (domain : TimeDomain) : Int :=
  ((c.devices.map domain.start).min?).getD 0

/-- The names of the devices, each marked as that of a graphics processor. -/
def deviceLabel (c : Capture) : String :=
  "&".intercalate (c.devices.map fun d => "nvgpu(" ++ d.name ++ ")")

/-- The summary of a capture from the given source. -/
def timelineInfo (c : Capture) (source : String) (domain : TimeDomain) : TimelineInfo where
  label := c.deviceLabel
  timesInMicroseconds := true
  cpus := 0
  source
  origin := c.origin domain

end Capture

end SwitchTrace
