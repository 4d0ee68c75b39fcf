import SwitchTrace.Proofs.Clock.Order
import SwitchTrace.Proofs.Clock.Range
import SwitchTrace.Proofs.Numeric.Relative

/-!
# Exact laws of clock maps

Some conversions are exact for whole numbers of any size. The anchor stays where it is, windows of
one length only move readings, and a window with an empty side brings every reading to the anchor,
as long as the distance of the reading is within the format. Where a product is zero, its sign and
the way it was rounded leave no trace in the nearest whole number.

A map reads its window and its readings by distances only. Moving both clocks therefore moves the
map along with them, and neither removes a fault nor makes one.

## Main definitions

* `ClockMap.moved` — the map between two clocks that have been moved.

## Main results

* `ClockMap.convert_of_still` — readings whose distance is zero, or is scaled by zero.
* `ClockMap.ofWindow_add`, `ClockMap.convert_moved` — windows and readings of moved clocks.
* `ClockMap.ofWindow_laws` — the laws together.
-/

namespace SwitchTrace

open Magnitude (unitsPerOne)

namespace Binary64

theorem round_zero (negative : Bool) : (zero negative).round = .ok 0 := by
  rw [zero, round, Magnitude.zero, isRounding_divHalfEven.zero]
  cases negative <;> rfl

/-- A product one of whose sides is zero is rounded to zero, whatever the signs are. -/
theorem round_mul_of_eq_zero {x y : Binary64} {u v : Int} (hx : x.units? = some u)
    (hy : y.units? = some v) (h : u * v = 0) : (x.mul y).round = .ok 0 := by
  obtain ⟨a, m, rfl, rfl⟩ := units?_eq_some_iff.mp hx
  obtain ⟨b, n, rfl, rfl⟩ := units?_eq_some_iff.mp hy
  have hproduct : m.units * n.units = 0 := by
    rw [← natAbs_signed (a != b) (m.units * n.units), ← signed_mul_signed, h, Int.natAbs_zero]
  rw [mul, hproduct, ofUnits_zero, round_zero]

end Binary64

namespace ClockMap

variable {m : ClockMap} {reading s : Int}

/-! ### Readings -/

/-- **A reading whose distance is zero, or is scaled by zero,** goes to the anchor. -/
theorem convert_of_still {x : Binary64} (hscale : m.scale.units? = some s)
    (hx : Binary64.ofInt (reading - m.src) = .ok x) (h : s = 0 ∨ reading = m.src) :
    m.convert reading = .ok m.dst := by
  have hiff := Binary64.isOne_iff_of_units? hscale
  by_cases hone : m.scale.isOne = true
  · -- The scale is not zero, and the distance is.
    have hs : s ≠ 0 := by
      have hpos := Binary64.unitsPerOne_pos
      rw [hiff.mp hone]
      omega
    rw [convert, if_pos hone, h.resolve_left hs, Int.sub_self, Int.add_zero]
  · have hproduct : s * nearestUnits ((reading - m.src : Int) * unitsPerOne) = 0 := by
      rcases h with rfl | rfl
      · rw [Int.zero_mul]
      · rw [Int.sub_self, Int.cast_zero, zero_mul, nearestUnits_zero, Int.mul_zero]
    have hscaled : scaled m.scale (reading - m.src) = .ok 0 := by
      rw [scaled, hx]
      exact Binary64.round_mul_of_eq_zero hscale (Binary64.units?_ofInt hx) hproduct
    rw [convert, if_neg hone, hscaled]
    exact congrArg Except.ok (Int.add_zero m.dst)

/-- The anchor stays where it is, however great the scale is. -/
theorem convert_src (hscale : m.scale.units? = some s) : m.convert m.src = .ok m.dst := by
  obtain ⟨x, hx, -⟩ := Binary64.exists_ofInt (by decide : 0 < 1024)
    (by rw [Int.sub_self]; exact Nat.zero_le _ : (m.src - m.src).natAbs ≤ power 2 0)
  exact convert_of_still hscale hx (.inr rfl)

/-- The map between two clocks of which the source has been moved by `k`, and the destination by
`l`. -/
def moved (k l : Int) (m : ClockMap) : ClockMap := ⟨m.dst + l, m.src + k, m.scale⟩

/-- **Readings of moved clocks** are converted as the others are, with the same faults. -/
theorem convert_moved (m : ClockMap) (k l reading : Int) :
    (m.moved k l).convert (reading + k) = (· + l) <$> m.convert reading := by
  have hdelta : reading + k - (m.src + k) = reading - m.src := Int.add_sub_add_right _ _ _
  rw [convert, convert, moved]
  dsimp only
  rw [hdelta]
  split
  · exact congrArg Except.ok (Int.add_right_comm _ _ _)
  · cases scaled m.scale (reading - m.src) with
    | error fault => rfl
    | ok n => exact congrArg Except.ok (Int.add_right_comm _ _ _)

/-! ### Windows -/

section Windows

variable {srcStart srcEnd dstStart dstEnd : Int}

/-- The map of a window is anchored at its end. -/
theorem anchor_of_ofWindow (h : ofWindow srcStart srcEnd dstStart dstEnd = .ok m) :
    m.dst = dstEnd ∧ m.src = srcEnd := by
  obtain ⟨scale, -, rfl⟩ := ofWindow_eq_ok_iff.mp h
  exact ⟨rfl, rfl⟩

/-- **The window of moved clocks** has the moved map, and a fault just if the other one has it. -/
theorem ofWindow_add (srcStart srcEnd dstStart dstEnd k l : Int) :
    ofWindow (srcStart + k) (srcEnd + k) (dstStart + l) (dstEnd + l) =
      moved k l <$> ofWindow srcStart srcEnd dstStart dstEnd := by
  rw [ofWindow, ofWindow, Int.add_sub_add_right, Int.add_sub_add_right]
  cases windowScale (srcEnd - srcStart) (dstEnd - dstStart) <;> rfl

/-- A window with an empty side has the scale zero. -/
theorem windowUnits_eq_zero {src dst : Int} (h : src = 0 ∨ dst = 0) : windowUnits src dst = 0 := by
  rw [windowUnits]
  split
  · rfl
  · next hsrc =>
    rw [h.resolve_left hsrc, Int.cast_zero, zero_mul, nearestUnits_zero, Int.cast_zero, zero_mul,
      zero_div, nearestUnits_zero]

/-- Windows of one length move readings, by any distance. -/
theorem convert_of_equal_lengths (hm : ofWindow srcStart srcEnd dstStart dstEnd = .ok m)
    (hlength : dstEnd - dstStart = srcEnd - srcStart) (hne : srcEnd - srcStart ≠ 0)
    (reading : Int) : m.convert reading = .ok (reading + (dstEnd - srcEnd)) := by
  have hscale := units?_of_ofWindow hm
  obtain ⟨hdst, hsrc⟩ := anchor_of_ofWindow hm
  rw [hlength, windowUnits_self hne] at hscale
  rw [convert, if_pos ((Binary64.isOne_iff_of_units? hscale).mpr rfl), hdst, hsrc]
  exact congrArg Except.ok (by omega)

/-- A window with an empty side takes every reading to its end whose distance is within the
format. -/
theorem convert_of_empty (hm : ofWindow srcStart srcEnd dstStart dstEnd = .ok m)
    (hempty : srcStart = srcEnd ∨ dstStart = dstEnd)
    (hreading : (reading - srcEnd).natAbs ≤ power 2 1023) : m.convert reading = .ok dstEnd := by
  obtain ⟨rfl, rfl⟩ := anchor_of_ofWindow hm
  obtain ⟨x, hx, -⟩ := Binary64.exists_ofInt (by decide : 1023 < 1024) hreading
  refine convert_of_still (units?_of_ofWindow hm) hx (.inl (windowUnits_eq_zero ?_))
  omega

end Windows

/-- **Exact laws of clock maps**, for whole numbers of any size. The end of the window of the source
goes to the end of that of the destination. Windows of one length that are not empty move every
reading by one distance, and this can neither be rounded nor fail. A window with an empty side takes
all readings up to `2 ^ 1023` away to its end. If the two clocks are moved, then so are the results,
and the window and the reading have a fault just if they had it before. -/
theorem ofWindow_laws (srcStart srcEnd dstStart dstEnd : Int) :
    (∀ m, ofWindow srcStart srcEnd dstStart dstEnd = .ok m →
      m.convert srcEnd = .ok dstEnd ∧
      (dstEnd - dstStart = srcEnd - srcStart → srcEnd - srcStart ≠ 0 →
        ∀ reading, m.convert reading = .ok (reading + (dstEnd - srcEnd))) ∧
      (srcStart = srcEnd ∨ dstStart = dstEnd →
        ∀ reading, (reading - srcEnd).natAbs ≤ power 2 1023 → m.convert reading = .ok dstEnd)) ∧
    ∀ k l,
      (∀ fault, ofWindow (srcStart + k) (srcEnd + k) (dstStart + l) (dstEnd + l) = .error fault ↔
        ofWindow srcStart srcEnd dstStart dstEnd = .error fault) ∧
      ∀ reading, (ofWindow (srcStart + k) (srcEnd + k) (dstStart + l) (dstEnd + l) >>=
          (·.convert (reading + k))) =
        (· + l) <$> (ofWindow srcStart srcEnd dstStart dstEnd >>= (·.convert reading)) := by
  refine ⟨fun m hm => ⟨?_, convert_of_equal_lengths hm, fun h _ => convert_of_empty hm h⟩,
    fun k l => ⟨fun fault => ?_, fun reading => ?_⟩⟩
  · obtain ⟨rfl, rfl⟩ := anchor_of_ofWindow hm
    exact convert_src (units?_of_ofWindow hm)
  · rw [ofWindow_add]
    cases ofWindow srcStart srcEnd dstStart dstEnd with
    | error fault' => exact Iff.rfl
    | ok m => exact iff_of_false nofun nofun
  · rw [ofWindow_add]
    cases ofWindow srcStart srcEnd dstStart dstEnd with
    | error fault => rfl
    | ok m => exact convert_moved m k l reading

/-- Two windows of one length beyond 53 bits, a window with an empty source, and the latter after
both clocks have been moved. -/
theorem ofWindow_laws_beyond_mantissa :
    (∃ m, ofWindow 1 1000000000000000000000 (-6) 999999999999999999993 = .ok m ∧
      m.convert 1000000000000000000000 = .ok 999999999999999999993 ∧
      m.convert (-123456789012345678901234567890) = .ok (-123456789012345678901234567897)) ∧
    (∃ m, ofWindow 7 7 3 20 = .ok m ∧ m.convert (-1000000000000000000000) = .ok 20) ∧
    (ofWindow 8 8 1 18 >>= (·.convert (-999999999999999999999))) =
      (· + -2) <$> (ofWindow 7 7 3 20 >>= (·.convert (-1000000000000000000000))) := by
  have hlong : ofWindow 1 1000000000000000000000 (-6) 999999999999999999993 =
      .ok ⟨999999999999999999993, 1000000000000000000000, .one⟩ := by decide +kernel
  have hempty : ofWindow 7 7 3 20 = .ok ⟨20, 7, .zero false⟩ := by decide +kernel
  obtain ⟨hend, hequal, -⟩ := (ofWindow_laws _ _ _ _).1 _ hlong
  obtain ⟨-, -, hstill⟩ := (ofWindow_laws _ _ _ _).1 _ hempty
  have hmoved := ((ofWindow_laws 7 7 3 20).2 1 (-2)).2 (-1000000000000000000000)
  simp only [Int.reduceAdd] at hmoved
  exact ⟨⟨_, hlong, hend, hequal (by decide) (by decide) _⟩,
    ⟨_, hempty, hstill (.inl rfl) _ (by decide +kernel)⟩, hmoved⟩

end ClockMap

end SwitchTrace
