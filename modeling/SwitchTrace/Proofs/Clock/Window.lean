import SwitchTrace.Proofs.Clock.Range

/-!
# Readings inside a window

The scale of a window is a rounded quotient. If the source is at most `2 ^ 53` readings long and the
destination less than `2 ^ 51`, then half a gap of the quotient, taken as often as the source is
long, is at most a quarter of a reading. A whole number below `2 ^ 51` and a quarter is a magnitude,
so that rounding the product does not pass it, and rounding it to whole readings leaves nothing
beyond the destination. A reading inside the window therefore stays inside it.

## Main definitions

* `ClockMap.Spans` — a map that takes a source no further back than a destination.
* `Track.IsWindowed` — a track with such windows and with records inside.

## Main results

* `Magnitude.roundToGap_mul_near` — a rounded quotient taken as often as its divisor.
* `ClockMap.exists_ofWindow_spans`, `ClockMap.Spans.exists_convert` — the map of a window, and a
  reading inside it.
-/

namespace SwitchTrace

open Magnitude (unitsPerOne)

/-! ### Quotients -/

theorem Magnitude.two_mul_power_le_unitsPerOne : 2 * power 2 53 ≤ unitsPerOne :=
  Nat.pow_le_pow_right (by decide : 0 < 2) (by decide : 54 ≤ unitExponent)

/-- **A rounded quotient, taken as often as its divisor,** is at most a quarter of one away from the
dividend. -/
theorem Magnitude.roundToGap_mul_near {dst src : Nat} (hpos : 0 < src) (hsrc : src ≤ power 2 53)
    (hdst : dst < power 2 51) :
    let scale := roundToGap (dst * unitsPerOne * unitsPerOne) (src * unitsPerOne)
    4 * (scale * src) ≤ (4 * dst + 1) * unitsPerOne ∧
      4 * dst * unitsPerOne ≤ 4 * (scale * src) + unitsPerOne := by
  intro scale
  have hone : 0 < unitsPerOne := Binary64.unitsPerOne_pos
  obtain ⟨hlow, hhigh⟩ := roundToGap_near (Nat.mul_pos hpos hone) (dst * unitsPerOne * unitsPerOne)
  rw [Nat.mul_div_mul_right _ _ hone] at hlow hhigh
  -- Half the gap, taken as often as the divisor, is at most a quarter of one.
  have hgap : 2 * (src * gap (dst * unitsPerOne / src)) ≤ unitsPerOne := by
    rcases gap_eq_one_or (dst * unitsPerOne / src) with hgap | hgap
    · have hlarge := two_mul_power_le_unitsPerOne
      rw [hgap]
      omega
    · rw [Nat.le_div_iff_mul_le hpos] at hgap
      have hdst' := Nat.mul_le_mul_right unitsPerOne (Nat.le_of_lt hdst)
      have hpower : power 2 52 = 2 * power 2 51 := by decide
      have hscaled : power 2 51 * (2 * (src * gap (dst * unitsPerOne / src))) ≤
          power 2 51 * unitsPerOne := by
        refine Nat.le_trans (Nat.le_of_eq ?_) (Nat.le_trans hgap hdst')
        rw [hpower]
        ring
      exact Nat.le_of_mul_le_mul_left hscaled (by decide)
  generalize gap (dst * unitsPerOne / src) = g at hlow hhigh hgap
  -- Both bounds are compared after they have been multiplied with one.
  constructor
  · refine Nat.le_of_mul_le_mul_right ?_ hone
    calc 4 * (scale * src) * unitsPerOne = 2 * (2 * (scale * (src * unitsPerOne))) := by ring
      _ ≤ 2 * (2 * (dst * unitsPerOne * unitsPerOne) + src * unitsPerOne * g) :=
          Nat.mul_le_mul_left 2 hhigh
      _ = (4 * dst * unitsPerOne + 2 * (src * g)) * unitsPerOne := by ring
      _ ≤ (4 * dst + 1) * unitsPerOne * unitsPerOne := by
          rw [Nat.add_mul (4 * dst), Nat.one_mul]
          gcongr
  · refine Nat.le_of_mul_le_mul_right ?_ hone
    calc 4 * dst * unitsPerOne * unitsPerOne = 2 * (2 * (dst * unitsPerOne * unitsPerOne)) := by
          ring
      _ ≤ 2 * (2 * (scale * (src * unitsPerOne)) + src * unitsPerOne * g) :=
          Nat.mul_le_mul_left 2 hlow
      _ = (4 * (scale * src) + 2 * (src * g)) * unitsPerOne := by ring
      _ ≤ (4 * (scale * src) + unitsPerOne) * unitsPerOne := by gcongr

/-- A quarter is two to the power of this, in units. -/
def Magnitude.quarterExponent : Nat := 1072

/-- A quarter of one, in units. -/
def Magnitude.quarter : Nat := power 2 quarterExponent

theorem Magnitude.quarter_pos : 0 < quarter := Nat.two_pow_pos quarterExponent

theorem Magnitude.power_mul_quarter (k : Nat) :
    power 2 k * quarter = power 2 (k + quarterExponent) :=
  (power_add 2 k quarterExponent).symm

theorem Magnitude.unitsPerOne_eq_four_mul_quarter : unitsPerOne = 4 * quarter := by
  have hfour (n : Nat) : 4 * n = power 2 2 * n := rfl
  rw [hfour, power_mul_quarter]
  exact congrArg (power 2) (by decide : unitExponent = 2 + quarterExponent)

/-- A whole number below `2 ^ 51` and a quarter is a magnitude. -/
theorem Magnitude.gap_dvd_mul_quarter {n : Nat} (hn : n < power 2 51) :
    gap ((4 * n + 1) * quarter) ∣ (4 * n + 1) * quarter := by
  have hbits : 4 * n + 1 < power 2 53 := by
    have hpower : power 2 53 = 4 * power 2 51 := by decide
    omega
  have hlt : (4 * n + 1) * quarter < power 2 (quarterExponent + 53) := by
    rw [Nat.add_comm quarterExponent, ← power_mul_quarter]
    exact Nat.mul_lt_mul_of_pos_right hbits quarter_pos
  exact gap_dvd_of_lt hlt (Nat.dvd_mul_left quarter (4 * n + 1))

/-- What is at most a whole number and a quarter is rounded to at most the whole number. -/
theorem divHalfEven_le_of_quarter {units n : Nat}
    (h : units ≤ (4 * n + 1) * Magnitude.quarter) : divHalfEven units unitsPerOne ≤ n := by
  by_contra hlt
  have hpos := Binary64.unitsPerOne_pos
  have hreach := (le_divHalfEven_iff hpos (n + 1)).mp (Nat.not_le.mp hlt)
  rw [Magnitude.unitsPerOne_eq_four_mul_quarter] at hpos hreach
  have hleft : 2 * (n + 1) * (4 * Magnitude.quarter) =
      2 * ((4 * n + 1) * Magnitude.quarter) + 6 * Magnitude.quarter := by ring
  omega

/-- A product of at most a whole number and a quarter is rounded to at most the whole number:
rounding it in the format does not pass the quarter. -/
theorem Binary64.exists_round_mul_le {s x : Magnitude} {src dst : Nat} (negative : Bool)
    (hx : x.units = src * unitsPerOne) (hdst : dst < power 2 51)
    (h : 4 * (s.units * src) ≤ (4 * dst + 1) * unitsPerOne) :
    ∃ n, (Binary64.mul (.finite false s) (.finite negative x)).round =
      .ok (signed negative n) ∧ n ≤ dst := by
  have hbound : s.units * x.units ≤ (4 * dst + 1) * Magnitude.quarter * unitsPerOne := by
    rw [Magnitude.unitsPerOne_eq_four_mul_quarter, Nat.mul_left_comm (4 * dst + 1)] at h
    have hspan := Nat.le_of_mul_le_mul_left h (by decide : 0 < 4)
    rw [hx, ← Nat.mul_assoc]
    exact Nat.mul_le_mul_right _ hspan
  have hfits : s.units * x.units ≤ power 2 51 * unitsPerOne * unitsPerOne := by
    refine Nat.le_trans hbound (Nat.mul_le_mul_right _ ?_)
    rw [Magnitude.unitsPerOne_eq_four_mul_quarter, ← Nat.mul_assoc]
    refine Nat.mul_le_mul_right _ ?_
    omega
  obtain ⟨m, hm, hround, -⟩ :=
    exists_ofRatio?_le_power unitsPerOne_pos (by decide : 51 < 1024) hfits
  have hle : m.units ≤ (4 * dst + 1) * Magnitude.quarter := by
    rw [hround]
    exact Magnitude.roundToGap_le unitsPerOne_pos (Magnitude.gap_dvd_mul_quarter hdst) hbound
  refine ⟨divHalfEven m.units unitsPerOne, ?_, divHalfEven_le_of_quarter hle⟩
  rw [mul, ofUnits, hm, saturated, round, Bool.false_bne]

/-! ### Maps -/

namespace ClockMap

/-- The map runs forward, and takes what is `src` before its anchor no further back than `dst` and a
quarter, before rounding. -/
def Spans (m : ClockMap) (src dst : Nat) : Prop :=
  ∃ s, m.scale = .finite false s ∧ 4 * (s.units * src) ≤ (4 * dst + 1) * unitsPerOne

variable {src dst : Nat}

/-- The scale of a window that is not empty, taken as often as the source is long, reaches the
destination up to a quarter. -/
theorem exists_windowScale_near (hpos : 0 < src) (hsrc : src ≤ power 2 53)
    (hdst : dst < power 2 51) :
    ∃ s, windowScale src dst = .ok (.finite false s) ∧
      4 * (s.units * src) ≤ (4 * dst + 1) * unitsPerOne ∧
        4 * dst * unitsPerOne ≤ 4 * (s.units * src) + unitsPerOne := by
  have hsmall : power 2 51 ≤ power 2 53 := by decide
  obtain ⟨x, hx, hxunits⟩ := Binary64.exists_ofInt_exact (n := dst)
    (Nat.le_trans (Nat.le_of_lt hdst) hsmall)
  obtain ⟨y, hy, hyunits⟩ := Binary64.exists_ofInt_exact (n := src) hsrc
  rw [Int.natAbs_natCast] at hxunits hyunits
  have hypos : 0 < y.units := hyunits ▸ Nat.mul_pos hpos Binary64.unitsPerOne_pos
  have hfits : x.units * unitsPerOne ≤ power 2 51 * unitsPerOne * y.units := by
    rw [hxunits, hyunits]
    refine Nat.mul_le_mul (Nat.mul_le_mul_right _ (Nat.le_of_lt hdst)) ?_
    exact Nat.le_mul_of_pos_left _ hpos
  obtain ⟨s, hs, hround, -⟩ :=
    Binary64.exists_ofRatio?_le_power hypos (by decide : 51 < 1024) hfits
  rw [hxunits, hyunits] at hround
  refine ⟨s, ?_, hround ▸ Magnitude.roundToGap_mul_near hpos hsrc hdst⟩
  have hne : ¬ (src : Int) = 0 := Int.natCast_ne_zero.mpr (Nat.ne_of_gt hpos)
  have hsign (n : Nat) : decide ((n : Int) < 0) = false :=
    decide_eq_false (Int.not_lt.mpr (Int.natCast_nonneg n))
  rw [windowScale, if_neg hne, hx, hy, hsign, hsign]
  dsimp only [bind, Except.bind]
  rw [Binary64.div, if_neg (Nat.ne_of_gt hypos), Binary64.ofUnits, hs]
  rfl

/-- **The map of a window that fits spans it.** -/
theorem exists_ofWindow_spans {srcStart srcEnd dstStart dstEnd : Int}
    (hsrc : srcEnd - srcStart = src) (hdst : dstEnd - dstStart = dst) (hsrc' : src ≤ power 2 53)
    (hdst' : dst < power 2 51) :
    ∃ m, ofWindow srcStart srcEnd dstStart dstEnd = .ok m ∧ m.dst = dstEnd ∧ m.src = srcEnd ∧
      m.Spans src dst := by
  rcases Nat.eq_zero_or_pos src with rfl | hpos
  · -- An empty source leaves nothing to be scaled.
    have hscale : windowScale (srcEnd - srcStart) (dstEnd - dstStart) = .ok (.zero false) :=
      if_pos hsrc
    refine ⟨_, ofWindow_eq_ok_iff.mpr ⟨_, hscale, rfl⟩, rfl, rfl, .zero, ?_, Nat.zero_le _⟩
    exact if_neg fun h => h.2 hsrc
  · obtain ⟨s, hs, hnear, -⟩ := exists_windowScale_near hpos hsrc' hdst'
    rw [← hsrc, ← hdst] at hs
    refine ⟨_, ofWindow_eq_ok_iff.mpr ⟨_, hs, rfl⟩, rfl, rfl, ?_⟩
    by_cases hsame : dstEnd - dstStart = srcEnd - srcStart ∧ srcEnd - srcStart ≠ 0
    · have hlength : src = dst := by omega
      refine ⟨.one, if_pos hsame, ?_⟩
      rw [hlength, ← Nat.mul_assoc, Nat.mul_right_comm]
      exact Nat.mul_le_mul_right unitsPerOne (Nat.le_succ (4 * dst))
    · exact ⟨s, if_neg hsame, hnear⟩

/-- A distance that the scale takes no further than a whole number and a quarter becomes at most
that number of readings, in the same direction. -/
theorem exists_scaled_le {s : Magnitude} {delta : Int} (hdelta : delta.natAbs ≤ power 2 53)
    (hdst : dst < power 2 51)
    (h : 4 * (s.units * delta.natAbs) ≤ (4 * dst + 1) * unitsPerOne) :
    ∃ n, scaled (.finite false s) delta = .ok (Binary64.signed (decide (delta < 0)) n) ∧
      n ≤ dst := by
  obtain ⟨x, hx, hunits⟩ := Binary64.exists_ofInt_exact hdelta
  obtain ⟨n, hround, hle⟩ := Binary64.exists_round_mul_le (decide (delta < 0)) hunits hdst h
  refine ⟨n, ?_, hle⟩
  rw [scaled, hx]
  dsimp only [bind, Except.bind]
  exact hround

/-- **A reading inside the source is taken inside the destination.** -/
theorem Spans.exists_convert {m : ClockMap} (h : m.Spans src dst) (hsrc : src ≤ power 2 53)
    (hdst : dst < power 2 51) {reading : Int} (hlow : m.src - src ≤ reading)
    (hhigh : reading ≤ m.src) :
    ∃ n, m.convert reading = .ok n ∧ m.dst - dst ≤ n ∧ n ≤ m.dst := by
  obtain ⟨s, hscale, hspan⟩ := h
  by_cases hone : m.scale.isOne = true
  · -- A scale of one leaves the distance as it is, and then the destination is not shorter.
    refine ⟨m.dst + (reading - m.src), by rw [convert, if_pos hone], ?_, by omega⟩
    rw [hscale, Binary64.isOne_iff_of_units? rfl, Int.natCast_inj] at hone
    rw [hone, Nat.mul_left_comm, Nat.mul_comm] at hspan
    have hle := Nat.le_of_mul_le_mul_right hspan Binary64.unitsPerOne_pos
    omega
  · have hdelta : (reading - m.src).natAbs ≤ src := by omega
    rcases Int.lt_or_eq_of_le hhigh with hlt | heq
    · have hspan' : 4 * (s.units * (reading - m.src).natAbs) ≤ (4 * dst + 1) * unitsPerOne :=
        Nat.le_trans (Nat.mul_le_mul_left 4 (Nat.mul_le_mul_left s.units hdelta)) hspan
      obtain ⟨n, hn, hle⟩ := exists_scaled_le (Nat.le_trans hdelta hsrc) hdst hspan'
      refine ⟨m.dst - n, ?_, by omega, by omega⟩
      have hneg : reading - m.src < 0 := by omega
      rw [convert, if_neg hone, hscale, hn, decide_eq_true hneg]
      rfl
    · -- The anchor stays where it is.
      have hspan' : 4 * (s.units * (0 : Int).natAbs) ≤ (4 * 0 + 1) * unitsPerOne := Nat.zero_le _
      obtain ⟨n, hn, hle⟩ := exists_scaled_le (Nat.zero_le _) (Nat.two_pow_pos 51) hspan'
      refine ⟨m.dst, ?_, by omega, Int.le_refl _⟩
      rw [convert, if_neg hone, hscale, heq, Int.sub_self, hn, Nat.le_zero.mp hle]
      exact congrArg Except.ok (Int.add_zero m.dst)

end ClockMap

/-! ### Tracks -/

/-- The track lies in a window: its clocks run forward, the device for at most `2 ^ 53` readings and
the processor for less than `2 ^ 51`, and its records were taken meanwhile. -/
structure Track.IsWindowed (t : Track) : Prop where
  gpuStart_le : t.device.gpuStart ≤ t.device.gpuEnd
  gpu_le : t.device.gpuEnd - t.device.gpuStart ≤ power 2 53
  cpuStart_le : t.device.cpuStart ≤ t.device.cpuEnd
  cpu_lt : t.device.cpuEnd - t.device.cpuStart < power 2 51
  mem_window : ∀ r ∈ t.records, t.device.gpuStart ≤ r.timestamp ∧ r.timestamp ≤ t.device.gpuEnd

/-- **The records of a track in a window stay in it**, and none of them has a fault. -/
theorem Track.IsWindowed.exists_clockMap {t : Track} (h : t.IsWindowed) :
    ∃ clock, t.device.clockMap = .ok clock ∧ ∀ r ∈ t.records, ∃ timestamp,
      clock.convert r.timestamp = .ok timestamp ∧
        t.device.cpuStart ≤ timestamp ∧ timestamp ≤ t.device.cpuEnd := by
  obtain ⟨src, hsrc⟩ := Int.eq_ofNat_of_zero_le (Int.sub_nonneg.mpr h.gpuStart_le)
  obtain ⟨dst, hdst⟩ := Int.eq_ofNat_of_zero_le (Int.sub_nonneg.mpr h.cpuStart_le)
  have hsrc' : src ≤ power 2 53 := Int.ofNat_le.mp (hsrc ▸ h.gpu_le)
  have hdst' : dst < power 2 51 := Int.ofNat_lt.mp (hdst ▸ h.cpu_lt)
  obtain ⟨clock, hclock, hend, hanchor, hspans⟩ :=
    ClockMap.exists_ofWindow_spans hsrc hdst hsrc' hdst'
  refine ⟨clock, hclock, fun r hr => ?_⟩
  obtain ⟨hstart, hstop⟩ := h.mem_window r hr
  have hlow : clock.src - src ≤ r.timestamp := by omega
  have hhigh : r.timestamp ≤ clock.src := by omega
  obtain ⟨timestamp, htimestamp, hfrom, hto⟩ := hspans.exists_convert hsrc' hdst' hlow hhigh
  exact ⟨timestamp, htimestamp, by omega, by omega⟩

end SwitchTrace
