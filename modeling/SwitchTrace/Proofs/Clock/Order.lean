import SwitchTrace.Proofs.Clock.Range
import SwitchTrace.Proofs.Numeric.Exact

/-!
# Clock maps keep or reverse order

What a clock map adds to its anchor is a function of the exact value of its scale and of the
distance from its anchor, composed of three roundings and one product. All four keep the order of
distances if the scale is not negative. A negative scale gives the same distances as its opposite
does, with the other sign.

The scale of a window is a quotient that is rounded twice, and divided by a number of at least one.
It is therefore finite whenever there is one, however long the window is, and its sign is that of
the two directions together.

## Main definitions

* `ClockMap.stretched` — the distance that a scale makes of a distance.
* `ClockMap.windowUnits` — the exact value of the scale of a window.
* `Device.RunsAlike` — both clocks of a device run in one direction.

## Main results

* `ClockMap.convert_eq_ok` — a conversion that succeeds, on exact values.
* `ClockMap.units?_of_ofWindow` — the scale of a window is finite.
* `ClockMap.convert_le`, `ClockMap.convert_ge` — maps of either sign keep or reverse order.
-/

namespace SwitchTrace

open Magnitude (unitsPerOne)

/-- A whole number other than zero is rounded to a number of at least one. -/
theorem unitsPerOne_le_abs_nearestUnits {n : Int} (hn : n ≠ 0) :
    unitsPerOne ≤ |nearestUnits (n * unitsPerOne)| := by
  have hone : (1 : ℚ) ≤ |(n : ℚ)| := by exact_mod_cast Int.one_le_abs hn
  rw [abs_nearestUnits]
  refine isRepresentable_unitsPerOne.le_nearestUnits ?_
  rw [abs_mul, abs_of_pos Binary64.unitsPerOne_pos_rat, Int.cast_natCast]
  exact le_mul_of_one_le_left Binary64.unitsPerOne_pos_rat.le hone

namespace ClockMap

/-! ### Distances -/

/-- The distance from `dst` for a scale of `s` units and a distance from `src`. The distance and its
product with the scale are rounded before the result is. A scale of one leaves the distance as it
is. -/
def stretched (s delta : Int) : Int :=
  if s = unitsPerOne then delta
  else nearestWhole
    (nearestUnits (s * nearestUnits (delta * unitsPerOne) / unitsPerOne) / unitsPerOne)

theorem scaled_eq_ok {scale : Binary64} {s delta n : Int} (hs : scale.units? = some s)
    (h : scaled scale delta = .ok n) : n = nearestWhole
      (nearestUnits (s * nearestUnits (delta * unitsPerOne) / unitsPerOne) / unitsPerOne) := by
  obtain ⟨x, hx, hround⟩ := bind_eq_ok_iff.mp h
  obtain ⟨w, hw, hn⟩ := Binary64.round_eq_ok_iff.mp hround
  rw [hn, Binary64.units?_mul hs (Binary64.units?_ofInt hx) hw]

/-- **A conversion that succeeds** answers the anchor and the stretched distance from it. -/
theorem convert_eq_ok {m : ClockMap} {s reading n : Int} (hs : m.scale.units? = some s)
    (h : m.convert reading = .ok n) : n = m.dst + stretched s (reading - m.src) := by
  have hiff := Binary64.isOne_iff_of_units? hs
  unfold convert at h
  by_cases hone : m.scale.isOne = true
  · rw [stretched, if_pos (hiff.mp hone)]
    rw [if_pos hone] at h
    exact (Except.ok.inj h).symm
  · rw [stretched, if_neg (mt hiff.mpr hone)]
    rw [if_neg hone] at h
    obtain ⟨k, hscaled, rfl⟩ := map_eq_ok_iff.mp h
    rw [← scaled_eq_ok hs hscaled]

/-- The product of a scale and a rounded distance, rounded, follows the order of distances. -/
theorem nearestUnits_product_mono {s : Int} (hs : 0 ≤ s) : Monotone fun delta : Int =>
    nearestUnits (s * nearestUnits (delta * unitsPerOne) / unitsPerOne) := by
  intro d e h
  have hpos := Binary64.unitsPerOne_pos_rat
  have hs' : (0 : ℚ) ≤ s := by exact_mod_cast hs
  have hle : (d * unitsPerOne : ℚ) ≤ e * unitsPerOne := by gcongr
  have hdistance : (nearestUnits (d * unitsPerOne) : ℚ) ≤ nearestUnits (e * unitsPerOne) := by
    exact_mod_cast nearestUnits_mono hle
  refine nearestUnits_mono ?_
  gcongr

theorem nearestWhole_div_unitsPerOne_mono {u v : Int} (h : u ≤ v) :
    nearestWhole (u / unitsPerOne) ≤ nearestWhole (v / unitsPerOne) := by
  have h' : (u : ℚ) ≤ v := by exact_mod_cast h
  exact nearestWhole_mono (div_le_div_of_nonneg_right h' Binary64.unitsPerOne_pos_rat.le)

/-- **A scale that is not negative keeps the order of distances.** -/
theorem stretched_mono {s : Int} (hs : 0 ≤ s) : Monotone (stretched s) := by
  intro d e h
  unfold stretched
  split
  · exact h
  · exact nearestWhole_div_unitsPerOne_mono (nearestUnits_product_mono hs h)

/-- **A scale that is not positive reverses the order of distances.** -/
theorem stretched_anti {s : Int} (hs : s ≤ 0) : Antitone (stretched s) := by
  intro d e h
  have hone : s ≠ unitsPerOne := by
    have hpos := Binary64.unitsPerOne_pos
    omega
  -- The opposite scale keeps the order of the rounded products, which differ in sign only.
  have hopposite := nearestUnits_product_mono (neg_nonneg.mpr hs) h
  simp only [Int.cast_neg, neg_mul, neg_div, nearestUnits_neg] at hopposite
  rw [stretched, stretched, if_neg hone, if_neg hone]
  exact nearestWhole_div_unitsPerOne_mono (neg_le_neg_iff.mp hopposite)

/-! ### Readings -/

variable {m : ClockMap} {s x y a b : Int}

/-- A map whose scale is not negative keeps the order of readings. -/
theorem convert_le (hscale : m.scale.units? = some s) (hs : 0 ≤ s) (h : x ≤ y)
    (hx : m.convert x = .ok a) (hy : m.convert y = .ok b) : a ≤ b := by
  have hmono := stretched_mono hs (Int.sub_le_sub_right h m.src)
  rw [convert_eq_ok hscale hx, convert_eq_ok hscale hy]
  omega

/-- A map whose scale is not positive reverses the order of readings. -/
theorem convert_ge (hscale : m.scale.units? = some s) (hs : s ≤ 0) (h : x ≤ y)
    (hx : m.convert x = .ok a) (hy : m.convert y = .ok b) : b ≤ a := by
  have hanti := stretched_anti hs (Int.sub_le_sub_right h m.src)
  rw [convert_eq_ok hscale hx, convert_eq_ok hscale hy]
  omega

/-! ### Windows -/

/-- The scale of a window in units, for the distances between its ends. -/
def windowUnits (src dst : Int) : Int :=
  if src = 0 then 0
  else nearestUnits
    (nearestUnits (dst * unitsPerOne) * unitsPerOne / nearestUnits (src * unitsPerOne))

/-- A scale of a window has an exact value: its quotient is within the format. -/
theorem units?_of_windowScale {src dst : Int} {scale : Binary64}
    (h : windowScale src dst = .ok scale) : scale.units? = some (windowUnits src dst) := by
  unfold windowScale at h
  by_cases hzero : src = 0
  · rw [if_pos hzero] at h
    rw [windowUnits, if_pos hzero, ← Except.ok.inj h]
    rfl
  · rw [if_neg hzero] at h
    rw [windowUnits, if_neg hzero]
    obtain ⟨x, hx, h⟩ := bind_eq_ok_iff.mp h
    obtain ⟨y, hy, h⟩ := bind_eq_ok_iff.mp h
    obtain ⟨z, hz, hunits⟩ := Binary64.exists_units?_div (Binary64.units?_ofInt hx)
      (Binary64.units?_ofInt hy) (unitsPerOne_le_abs_nearestUnits hzero)
    obtain rfl : z = scale := Except.ok.inj (hz.symm.trans h)
    exact hunits

/-- A window of equal distances has the scale one by its quotient, too. -/
theorem windowUnits_self {src : Int} (hsrc : src ≠ 0) : windowUnits src src = unitsPerOne := by
  have hle := unitsPerOne_le_abs_nearestUnits hsrc
  rw [windowUnits, if_neg hsrc]
  generalize nearestUnits (src * unitsPerOne) = u at hle ⊢
  have hne : (u : ℚ) ≠ 0 := by
    have hpos := Binary64.unitsPerOne_pos
    have : u ≠ 0 := by
      rintro rfl
      rw [abs_zero] at hle
      omega
    exact_mod_cast this
  rw [mul_div_cancel_left₀ _ hne, ← Int.cast_natCast]
  exact isRepresentable_unitsPerOne.nearestUnits_eq

/-- **The map of a window has a finite scale**, for windows of any length. -/
theorem units?_of_ofWindow {srcStart srcEnd dstStart dstEnd : Int}
    (h : ofWindow srcStart srcEnd dstStart dstEnd = .ok m) :
    m.scale.units? = some (windowUnits (srcEnd - srcStart) (dstEnd - dstStart)) := by
  obtain ⟨scale, hscale, rfl⟩ := ofWindow_eq_ok_iff.mp h
  dsimp only
  split
  · next hsame =>
    rw [hsame.1, windowUnits_self hsame.2]
    rfl
  · exact units?_of_windowScale hscale

/-- Distances of one sign have a scale that is not negative. -/
theorem windowUnits_nonneg {src dst : Int} (h : 0 ≤ src ∧ 0 ≤ dst ∨ src ≤ 0 ∧ dst ≤ 0) :
    0 ≤ windowUnits src dst := by
  have hpos := Binary64.unitsPerOne_pos_rat
  have hnonneg {n : Int} (hn : 0 ≤ n) : (0 : ℚ) ≤ nearestUnits (n * unitsPerOne) := by
    have hn' : (0 : ℚ) ≤ n := by exact_mod_cast hn
    exact_mod_cast nearestUnits_nonneg (by positivity)
  have hnonpos {n : Int} (hn : n ≤ 0) : (nearestUnits (n * unitsPerOne) : ℚ) ≤ 0 := by
    have hn' : (n : ℚ) ≤ 0 := by exact_mod_cast hn
    exact_mod_cast nearestUnits_nonpos (mul_nonpos_of_nonpos_of_nonneg hn' hpos.le)
  unfold windowUnits
  split
  · exact le_rfl
  · refine nearestUnits_nonneg ?_
    rcases h with ⟨hsrc, hdst⟩ | ⟨hsrc, hdst⟩
    · exact div_nonneg (mul_nonneg (hnonneg hdst) hpos.le) (hnonneg hsrc)
    · exact div_nonneg_of_nonpos
        (mul_nonpos_of_nonpos_of_nonneg (hnonpos hdst) hpos.le) (hnonpos hsrc)

end ClockMap

/-! ### Devices -/

/-- Both clocks run forward in the window of the device, or both backward. -/
def Device.RunsAlike (d : Device) : Prop :=
  d.gpuStart ≤ d.gpuEnd ∧ d.cpuStart ≤ d.cpuEnd ∨ d.gpuEnd ≤ d.gpuStart ∧ d.cpuEnd ≤ d.cpuStart

instance (d : Device) : Decidable d.RunsAlike := by unfold Device.RunsAlike; infer_instance

/-- **The clock map of a device whose clocks run alike keeps the order of readings.** -/
theorem Device.RunsAlike.convert_le {d : Device} (h : d.RunsAlike) {m : ClockMap}
    (hm : d.clockMap = .ok m) {x y a b : Int} (hxy : x ≤ y) (hx : m.convert x = .ok a)
    (hy : m.convert y = .ok b) : a ≤ b := by
  unfold RunsAlike at h
  exact ClockMap.convert_le (ClockMap.units?_of_ofWindow hm)
    (ClockMap.windowUnits_nonneg (by omega)) hxy hx hy

end SwitchTrace
