import SwitchTrace.Clock.Device
import SwitchTrace.Proofs.Numeric.Range
import SwitchTrace.Proofs.Steps

/-!
# Clock maps of readings within range

Readings of 64 bits with a sign are less than `2 ^ 64` apart. The scale of a window of such readings
is then at most `2 ^ 64`, whichever way its ends lie and also if they coincide, and distances that
are scaled by it are at most `2 ^ 128`, far below the greatest number of the format.

## Main results

* `ClockMap.ofWindow_eq_ok_iff` — what the map of a window is made of.
* `Device.exists_clockMap` — a descriptor whose numbers fit has a clock map.
* `ClockMap.exists_convert` — such a map converts every reading of 64 bits.
-/

namespace SwitchTrace

/-- The readings of 64 bits with a sign. -/
theorem IntField.holds_i64_iff {x : Int} :
    IntField.i64.Holds x ↔ -9223372036854775808 ≤ x ∧ x < 9223372036854775808 := Iff.rfl

/-- Two readings of 64 bits are less than `2 ^ 64` apart. -/
theorem IntField.natAbs_sub_le {x y : Int} (hx : IntField.i64.Holds x)
    (hy : IntField.i64.Holds y) : (x - y).natAbs ≤ power 2 64 := by
  have hpower : power 2 64 = 18446744073709551616 := by decide
  rw [IntField.holds_i64_iff] at hx hy
  omega

namespace Binary64

theorem isWithin_zero (k : Nat) (negative : Bool) : IsWithin k (zero negative) :=
  ⟨negative, .zero, rfl, Nat.zero_le _⟩

theorem isWithin_one (k : Nat) : IsWithin k one :=
  ⟨false, .one, rfl, Nat.le_mul_of_pos_left _ (Nat.two_pow_pos k)⟩

end Binary64

namespace ClockMap

/-- The scale of a window of bounded length is bounded alike. The source is divided by only if it is
not empty, and is then at least one. -/
theorem exists_windowScale {src dst : Int} {k : Nat} (hk : k < 1024)
    (hsrc : src.natAbs ≤ power 2 k) (hdst : dst.natAbs ≤ power 2 k) :
    ∃ x, windowScale src dst = .ok x ∧ x.IsWithin k := by
  by_cases hzero : src = 0
  · exact ⟨_, by rw [windowScale, if_pos hzero], Binary64.isWithin_zero k false⟩
  · obtain ⟨x, hx, hxle, -⟩ := Binary64.exists_ofInt hk hdst
    obtain ⟨y, hy, -, hyone⟩ := Binary64.exists_ofInt hk hsrc
    obtain ⟨z, hz, hzle⟩ := hxle.exists_div hk (hyone hzero)
    refine ⟨z, ?_, hzle⟩
    rw [windowScale, if_neg hzero, hx, hy]
    exact hz

/-- What the map of a window is made of. -/
theorem ofWindow_eq_ok_iff {srcStart srcEnd dstStart dstEnd : Int} {m : ClockMap} :
    ofWindow srcStart srcEnd dstStart dstEnd = .ok m ↔
      ∃ scale, windowScale (srcEnd - srcStart) (dstEnd - dstStart) = .ok scale ∧
        m = ⟨dstEnd, srcEnd,
          if dstEnd - dstStart = srcEnd - srcStart ∧ srcEnd - srcStart ≠ 0 then .one else scale⟩ := by
  simp only [ofWindow, bind_eq_ok_iff, pure_eq_ok_iff]

/-- **A window of bounded lengths has a clock map**, its scale being at most `2 ^ 64`. -/
theorem exists_ofWindow_of_le {srcStart srcEnd dstStart dstEnd : Int}
    (hsrc : (srcEnd - srcStart).natAbs ≤ power 2 64)
    (hdst : (dstEnd - dstStart).natAbs ≤ power 2 64) :
    ∃ m, ofWindow srcStart srcEnd dstStart dstEnd = .ok m ∧ m.dst = dstEnd ∧ m.src = srcEnd ∧
      m.scale.IsWithin 64 := by
  obtain ⟨x, hx, hwithin⟩ := exists_windowScale (by decide : 64 < 1024) hsrc hdst
  refine ⟨_, ofWindow_eq_ok_iff.mpr ⟨x, hx, rfl⟩, rfl, rfl, ?_⟩
  split
  · exact Binary64.isWithin_one 64
  · exact hwithin

/-- **So has a window of readings of 64 bits.** -/
theorem exists_ofWindow {srcStart srcEnd dstStart dstEnd : Int}
    (hss : IntField.i64.Holds srcStart) (hse : IntField.i64.Holds srcEnd)
    (hds : IntField.i64.Holds dstStart) (hde : IntField.i64.Holds dstEnd) :
    ∃ m, ofWindow srcStart srcEnd dstStart dstEnd = .ok m ∧ m.dst = dstEnd ∧ m.src = srcEnd ∧
      m.scale.IsWithin 64 :=
  exists_ofWindow_of_le (IntField.natAbs_sub_le hse hss) (IntField.natAbs_sub_le hde hds)

/-- A distance of readings is scaled without fault. -/
theorem exists_scaled {scale : Binary64} {delta : Int} (hscale : scale.IsWithin 64)
    (hdelta : delta.natAbs ≤ power 2 64) :
    ∃ n, scaled scale delta = .ok n ∧ n.natAbs ≤ power 2 128 := by
  obtain ⟨x, hx, hxle, -⟩ := Binary64.exists_ofInt (by decide : 64 < 1024) hdelta
  obtain ⟨n, hn, hnle⟩ := (hscale.mul hxle (by decide : 64 + 64 < 1024)).exists_round
  refine ⟨n, ?_, hnle⟩
  rw [scaled, hx]
  exact hn

/-- **A reading at a bounded distance is converted without fault**, and not far from the end of the
window. -/
theorem exists_convert_of_le {m : ClockMap} (hscale : m.scale.IsWithin 64) {reading : Int}
    (hdelta : (reading - m.src).natAbs ≤ power 2 64) :
    ∃ n, m.convert reading = .ok (m.dst + n) ∧ n.natAbs ≤ power 2 128 := by
  by_cases hone : m.scale.isOne = true
  · refine ⟨reading - m.src, by rw [convert, if_pos hone], Nat.le_trans hdelta ?_⟩
    exact Nat.pow_le_pow_right (by decide) (by decide)
  · obtain ⟨n, hn, hnle⟩ := exists_scaled hscale hdelta
    refine ⟨n, ?_, hnle⟩
    rw [convert, if_neg hone, hn]
    rfl

/-- **So is a reading of 64 bits.** -/
theorem exists_convert {m : ClockMap} (hscale : m.scale.IsWithin 64)
    (hsrc : IntField.i64.Holds m.src) {reading : Int} (hreading : IntField.i64.Holds reading) :
    ∃ n, m.convert reading = .ok (m.dst + n) ∧ n.natAbs ≤ power 2 128 :=
  exists_convert_of_le hscale (IntField.natAbs_sub_le hreading hsrc)

end ClockMap

/-- **A descriptor whose numbers fit has a clock map.** -/
theorem Device.exists_clockMap {d : Device} (h : d.Encodable) :
    ∃ m, d.clockMap = .ok m ∧ m.dst = d.cpuEnd ∧ m.src = d.gpuEnd ∧ m.scale.IsWithin 64 := by
  obtain ⟨-, hcpuStart, hgpuStart, hcpuEnd, hgpuEnd⟩ := h
  exact ClockMap.exists_ofWindow hgpuStart hgpuEnd hcpuStart hcpuEnd

end SwitchTrace
