import SwitchTrace.Files.Captures
import SwitchTrace.Synthetic.Generator

/-!
# Demonstration captures

## Main definitions

* `Capture.demo` — the synthetic capture of a seed.
* `FileTree.writeDemo` — such a capture in a file.
-/

namespace SwitchTrace

/-- The synthetic capture of a seed, with so many devices and so many records for each. -/
def Capture.demo (deviceCount recordsPerDevice seed : Int) : Except SynthesisFault Capture :=
  let plan : SyntheticPlan :=
    { tickRate := SyntheticPlan.standardRate, deviceCount, recordsPerDevice }
  ((plan.generate MersenneTwister.source).run.run (MersenneTwister.ofSeed seed)).1

/-- Why there is no file with a demonstration capture. -/
inductive DemoFault
  | synthesis (fault : SynthesisFault)
  | capture (fault : CaptureFault)
deriving DecidableEq, Repr

/-- The demonstration capture of a seed, and the tree with it in a file. -/
def FileTree.writeDemo (t : FileTree) (path : Path) (deviceCount recordsPerDevice seed : Int) :
    Except DemoFault (Capture × FileTree) := do
  let c ← (Capture.demo deviceCount recordsPerDevice seed).mapError .synthesis
  let t ← (t.storeCapture path c).mapError .capture
  return (c, t)

end SwitchTrace
