import SwitchTrace.Numeric.Binary64

/-!
# Maps between clocks

A clock map takes the readings of one clock to those of another. It is affine: it takes the
reading `src` to `dst`, and scales distances from `src`. Distances are scaled in binary64 and
rounded to whole readings; a scale of one leaves them as they are, at any size.

## Main definitions

* `ClockMap`, `ClockMap.convert` — a map and its values.
* `ClockMap.ofWindow` — the map through the two ends of a window.
-/

namespace SwitchTrace

/-- An affine map between clocks. -/
structure ClockMap where
  dst : Int
  src : Int
  scale : Binary64
deriving DecidableEq, Inhabited

namespace ClockMap

/-- The distance from `dst` to the image of a reading at the given distance from `src`. -/
def scaled (scale : Binary64) (delta : Int) : Except ArithmeticFault Int := do
  let x ← Binary64.ofInt delta
  (scale.mul x).round

/-- The image of a reading. -/
def convert (m : ClockMap) (reading : Int) : Except ArithmeticFault Int :=
  let delta := reading - m.src
  if m.scale.isOne then .ok (m.dst + delta) else (m.dst + ·) <$> scaled m.scale delta

/-- The quotient of two distances, or zero for an empty source window. -/
def windowScale (srcDelta dstDelta : Int) : Except ArithmeticFault Binary64 :=
  if srcDelta = 0 then .ok (.zero false)
  else do
    let dst ← Binary64.ofInt dstDelta
    let src ← Binary64.ofInt srcDelta
    dst.div src

/-- The map that takes a window of one clock to a window of another and is anchored at their
ends. Windows of one length have exactly the scale one. An empty source window has the scale
zero, so that every reading goes to the end. -/
def ofWindow (srcStart srcEnd dstStart dstEnd : Int) : Except ArithmeticFault ClockMap := do
  let srcDelta := srcEnd - srcStart
  let dstDelta := dstEnd - dstStart
  let scale ← windowScale srcDelta dstDelta
  return ⟨dstEnd, srcEnd, if dstDelta = srcDelta ∧ srcDelta ≠ 0 then .one else scale⟩

end ClockMap

end SwitchTrace
