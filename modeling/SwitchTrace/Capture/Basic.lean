import SwitchTrace.Capture.Device
import SwitchTrace.Capture.Record

/-!
# Captures

A capture has one track per device: its descriptor, and its records in the order in which they
were taken.

## Main definitions

* `Track`, `Capture` — the data of a capture.
* `Capture.ofLists?` — from descriptors and lists of records given apart.
-/

namespace SwitchTrace

/-- A device and its records. -/
structure Track where
  device : Device
  records : List Record
deriving DecidableEq, Inhabited

/-- The tracks of all devices, in the order of the devices. -/
structure Capture where
  tracks : List Track
deriving DecidableEq, Inhabited

/-- The number of records of all tracks of a list together. -/
def recordsIn : List Track → Nat
  | [] => 0
  | t :: ts => t.records.length + recordsIn ts

namespace Capture

/-- The descriptors of all devices. -/
def devices (c : Capture) : List Device := c.tracks.map Track.device

/-- The number of devices. -/
def deviceCount (c : Capture) : Nat := c.tracks.length

/-- The number of records of all devices together. -/
def recordCount (c : Capture) : Nat := recordsIn c.tracks

/-- The capture of descriptors and lists of records, if there are as many of the ones as of the
others. -/
def ofLists? (devices : List Device) (records : List (List Record)) : Option Capture :=
  if devices.length = records.length then some ⟨List.zipWith Track.mk devices records⟩ else none

/-- The message for lists of different lengths. -/
def mismatchMessage (devices records : Nat) : String :=
  "Device count mismatch: " ++ toString devices ++ " descriptors, " ++ toString records ++
    " record arrays"

end Capture

end SwitchTrace
