import SwitchTrace.Capture.Basic
import SwitchTrace.Numeric.Number
import SwitchTrace.Synthetic.MersenneTwister

/-!
# Synthetic captures

Captures in the shape of real ones: device clocks in nanoseconds, a processor clock with another
rate and origin, and records that switch the contexts of a few processes in and out in turn.

## Main definitions

* `SyntheticPlan` — what a capture is to look like.
* `Synthesis` — computations with random numbers, which may fail; the random state goes on past a
  failure.
* `SyntheticPlan.generate` — the capture of a plan.
-/

namespace SwitchTrace

/-- What a synthetic capture is to look like. -/
structure SyntheticPlan where
  deviceCount : Int := 1
  recordsPerDevice : Int := 100
  processCount : Int := 4
  /-- The length of the capture in nanoseconds. -/
  duration : Int := 10000000
  /-- The rate of the processor clock in ticks a nanosecond. -/
  tickRate : Number
  /-- The reading of the clock of the first device at the start. -/
  deviceEpoch : Int := 1000000000
  /-- The least reading of the processor clock at the start. -/
  processorEpoch : Int := 50000000000

/-- The rate of the processor clock unless another is given: three ticks a nanosecond. -/
def SyntheticPlan.standardRate : Number :=
  .float (.ofUnits false (3 * Magnitude.unitsPerOne) 1)

/-- Why a plan has no capture. -/
inductive SynthesisFault
  /-- A choice among no processes. -/
  | emptyRange
  | arithmetic (fault : ArithmeticFault)
deriving DecidableEq, Repr

/-- The message for a fault. -/
def SynthesisFault.message : SynthesisFault → String
  | .emptyRange => "empty range for randrange()"
  | .arithmetic fault => fault.message

/-- Computations with random numbers from a state of type `σ`. -/
abbrev Synthesis (σ : Type) := ExceptT SynthesisFault (StateM σ)

namespace Synthesis

variable {σ : Type}

/-- A number below a bound. -/
def below (source : RandomSource σ) (n : Int) : Synthesis σ Nat := do
  if n ≤ 0 then throw .emptyRange
  modifyGet (source.below n.toNat)

/-- A number of so many bits. -/
def bits (source : RandomSource σ) (k : Nat) : Synthesis σ Nat := modifyGet (source.bits k)

/-- A number between two bounds, both included. -/
def between (source : RandomSource σ) (low high : Int) : Synthesis σ Int := do
  let x ← below source (high - low + 1)
  return low + x

/-- So many results of a computation. -/
def times {α : Type} (x : Synthesis σ α) : Nat → Synthesis σ (List α)
  | 0 => return []
  | n + 1 => do
    let a ← x
    let as ← times x n
    return a :: as

/-- The results of a computation for so many numbers from the given one on. -/
def forEach {α : Type} (f : Nat → Synthesis σ α) : Nat → Nat → Synthesis σ (List α)
  | _, 0 => return []
  | start, n + 1 => do
    let a ← f start
    let as ← forEach f (start + 1) n
    return a :: as

/-- A result that does not depend on the random state. -/
def ofArithmetic {α : Type} : Except ArithmeticFault α → Synthesis σ α
  | .ok a => pure a
  | .error fault => throw (.arithmetic fault)

end Synthesis

namespace SyntheticPlan

open Synthesis

variable {σ : Type} (source : RandomSource σ) (plan : SyntheticPlan)

/-- The descriptor of a device. -/
def device (index : Nat) : Synthesis σ Device := do
  let gpuStart := plan.deviceEpoch + index * 1000
  let offset ← below source 1000000
  let cpuStart := plan.processorEpoch + offset
  let ticks ← ofArithmetic (plan.tickRate.timesTruncated plan.duration)
  let bytes ← times (below source 256) Uuid.size
  let uuid := (Uuid.ofBytes? (bytes.map UInt8.ofNat)).getD .zero
  return {
    uuid
    name := Device.storedName ("Synthetic GPU " ++ toString index)
    traceError := 0
    cpuStart
    gpuStart
    cpuEnd := cpuStart + ticks
    gpuEnd := gpuStart + plan.duration }

/-- A process and its context. -/
structure Client where
  process : Int
  handle : Int
deriving DecidableEq, Repr, Inhabited

/-- The processes of a device: first all their numbers are drawn, then all their contexts. -/
def clients : Synthesis σ (List Client) := do
  let count := plan.processCount.toNat
  let processes ← times (below source 30000) count
  let handles ← times (bits source 64) count
  return List.zipWith (fun (p h : Nat) => ⟨1000 + p, h⟩) processes handles

/-- The number of nanoseconds that a record takes on the whole. -/
def step : Int := plan.duration.fdiv (max plan.recordsPerDevice 1)

/-- The record of a client. -/
def switchRecord (client : Client) (switchedIn : Bool) (timestamp : Int) : Record where
  category := 1
  kind := if switchedIn then 1 else 2
  process := client.process
  timestamp
  handle := client.handle

/-- So many records from a time on. A context is chosen and switched in, and then it is switched
out. The time goes on after every record. -/
def recordsFrom (clients : List Client) : Nat → Bool → Client → Int → Synthesis σ (List Record)
  | 0, _, _, _ => return []
  | count + 1, switchedIn, last, timestamp => do
    let client ←
      if switchedIn then
        let slot ← below source plan.processCount
        pure (clients.getD slot default)
      else pure last
    let passed ← between source (max (plan.step / 2) 1) (max plan.step 1)
    let rest ← recordsFrom clients count (!switchedIn) client (timestamp + passed)
    return switchRecord client switchedIn timestamp :: rest

/-- The track of a device. -/
def track (d : Device) : Synthesis σ Track := do
  let clients ← plan.clients source
  let records ← plan.recordsFrom source clients plan.recordsPerDevice.toNat true default d.gpuStart
  return ⟨d, records⟩

/-- The capture of a plan: first all devices, then their records. -/
def generate : Synthesis σ Capture := do
  let devices ← forEach (plan.device source) 0 plan.deviceCount.toNat
  let tracks ← devices.mapM (plan.track source)
  return ⟨tracks⟩

end SyntheticPlan

end SwitchTrace
