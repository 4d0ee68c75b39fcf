import SwitchTrace.Capture.Basic
import SwitchTrace.Clock.Map

/-!
# Device time and processor time

## Main definitions

* `Device.clockMap` — from the clock of a device to that of the processor.
* `ClockMap.merged` — one map for several captures of one device.
* `Capture.toProcessorTime` — a capture with its records in processor time.
-/

namespace SwitchTrace

/-- The map from the clock of a device to that of the processor, through the readings at the
start and at the end of the capture. -/
def Device.clockMap (d : Device) : Except ArithmeticFault ClockMap :=
  ClockMap.ofWindow d.gpuStart d.gpuEnd d.cpuStart d.cpuEnd

/-! ### Several captures of one device -/

/-- The first of the descriptors whose device clock is least at the start. -/
def earliestStart : Device → List Device → Device
  | best, [] => best
  | best, d :: ds => earliestStart (if d.gpuStart < best.gpuStart then d else best) ds

/-- The first of the descriptors whose device clock is greatest at the end. -/
def latestEnd : Device → List Device → Device
  | best, [] => best
  | best, d :: ds => latestEnd (if best.gpuEnd < d.gpuEnd then d else best) ds

/-- Why captures have no common map. -/
inductive MergeFault
  | noDevices
  | arithmetic (fault : ArithmeticFault)
deriving DecidableEq, Repr

/-- The message for a fault. -/
def MergeFault.message : MergeFault → String
  | .noDevices => "merged_converter() needs at least one descriptor"
  | .arithmetic fault => fault.message

/-- The map through the earliest start and the latest end of several captures of one device. Both
readings of a pair come from one descriptor. -/
def ClockMap.merged : List Device → Except MergeFault ClockMap
  | [] => .error .noDevices
  | d :: ds =>
    let first := earliestStart d ds
    let last := latestEnd d ds
    (ClockMap.ofWindow first.gpuStart last.gpuEnd first.cpuStart last.cpuEnd).mapError .arithmetic

/-! ### Captures in processor time -/

/-- The record with its time taken through a map. -/
def Record.convert (m : ClockMap) (r : Record) : Except ArithmeticFault Record := do
  let timestamp ← m.convert r.timestamp
  return { r with timestamp }

/-- The track with its records in processor time. -/
def Track.toProcessorTime (t : Track) : Except ArithmeticFault Track := do
  let m ← t.device.clockMap
  let records ← t.records.mapM (Record.convert m)
  return { t with records }

/-- The capture with all records in processor time. -/
def Capture.toProcessorTime (c : Capture) : Except ArithmeticFault Capture := do
  let tracks ← c.tracks.mapM Track.toProcessorTime
  return ⟨tracks⟩

end SwitchTrace
