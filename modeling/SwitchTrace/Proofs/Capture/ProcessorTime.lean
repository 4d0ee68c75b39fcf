import SwitchTrace.Proofs.Capture.Writing
import SwitchTrace.Proofs.Clock.Accuracy
import SwitchTrace.Proofs.Timeline.Conversion

/-!
# Captures in processor time are written

A capture in processor time has readings that no clock has taken. The map of a window is anchored at
its end and keeps order, so that no reading of the window goes beyond the end. At the start there is
no such anchor, and a long window is overshot: its scale and its product are near to the exact ones
only, up to a factor. For distances of 64 bits that is `12288` readings at most. Where the clock of
the processor does not start below zero, this is still far within the field of a timestamp.

## Main definitions

* `ClockMap.overshoot` — how far before its start a window is left at most.
* `Track.RunsForward` — a track with a window of any length, and its records inside.

## Main results

* `ClockMap.neg_le_stretched`, `ClockMap.stretched_mem_window` — the distances from the end of a
  window.
* `Track.RunsForward.between` — the readings of a track in processor time.
* `Capture.exists_encode?_toProcessorTime` — a capture in processor time is written and read again.
-/

namespace SwitchTrace

namespace ClockMap

/-- The number of readings by which the start of a window of 64 bits is overshot at most, which is
six roundoffs of its length. -/
def overshoot : Int := 12288

section Distances

variable {src dst delta : Int}

/-- Without rounding, a distance inside a window of the source is one inside that of the
destination. -/
theorem abs_exact_le (hpos : 0 < src) (hdst : 0 ≤ dst) (hlow : -src ≤ delta) (hhigh : delta ≤ 0) :
    |(delta * dst / src : ℚ)| ≤ dst := by
  have hpos' : (0 : ℚ) < src := by exact_mod_cast hpos
  have hdst' : (0 : ℚ) ≤ dst := by exact_mod_cast hdst
  have hdelta : |(delta : ℚ)| ≤ src := by
    have hle : |delta| ≤ src := abs_le.mpr ⟨hlow, hhigh.trans hpos.le⟩
    exact_mod_cast hle
  rw [abs_div, abs_of_pos hpos', div_le_iff₀ hpos', abs_mul, abs_of_nonneg hdst', mul_comm]
  exact mul_le_mul_of_nonneg_left hdelta hdst'

/-- **The start of a window is overshot** by a bounded number of readings. -/
theorem neg_le_stretched (hpos : 0 < src) (hsrc : src.natAbs ≤ power 2 64) (hdst : 0 ≤ dst)
    (hdst' : dst.natAbs ≤ power 2 64) (hlow : -src ≤ delta) (hhigh : delta ≤ 0) :
    -(dst + overshoot) ≤ stretched (windowUnits src dst) delta := by
  have hexact := abs_exact_le hpos hdst hlow hhigh
  have hlength := (le_abs_self _).trans (abs_cast_le_of_natAbs_le hdst')
  have hnear := (abs_le.mp (abs_stretched_sub_le dst hpos.ne' hsrc delta)).1
  have herror : 6 * roundoff * |(delta * dst / src : ℚ)| ≤ overshoot :=
    calc 6 * roundoff * |(delta * dst / src : ℚ)|
        ≤ 6 * roundoff * (power 2 64 : Nat) :=
          mul_le_mul_of_nonneg_left (hexact.trans hlength)
            (mul_nonneg (by norm_num) roundoff_nonneg)
      _ = overshoot := by norm_num [roundoff, overshoot]
  -- The bound is a whole number, so that the half for the nearest one does not count.
  have hlt : (-(dst + overshoot) - 1 : ℚ) < stretched (windowUnits src dst) delta := by
    have hstart := (abs_le.mp hexact).1
    linarith
  have hlt' : -(dst + overshoot) - 1 < stretched (windowUnits src dst) delta := by
    exact_mod_cast hlt
  omega

/-- **The distances from the end of a window** are not turned around, and not much longer than that
of its start. -/
theorem stretched_mem_window (hsrc : src.natAbs ≤ power 2 64) (hdst : 0 ≤ dst)
    (hdst' : dst.natAbs ≤ power 2 64) (hlow : -src ≤ delta) (hhigh : delta ≤ 0) :
    -(dst + overshoot) ≤ stretched (windowUnits src dst) delta ∧
      stretched (windowUnits src dst) delta ≤ 0 := by
  rcases hhigh.eq_or_lt with rfl | hlt
  · rw [stretched_zero, overshoot]
    omega
  · have hpos : 0 < src := by omega
    have hmono := stretched_mono (windowUnits_nonneg (.inl ⟨hpos.le, hdst⟩)) hhigh
    rw [stretched_zero] at hmono
    exact ⟨neg_le_stretched hpos hsrc hdst hdst' hlow hhigh, hmono⟩

end Distances

end ClockMap

/-! ### Tracks -/

/-- Both clocks of the track run forward, that of the processor not below zero, and its records were
taken meanwhile. -/
structure Track.RunsForward (t : Track) : Prop where
  gpuStart_le : t.device.gpuStart ≤ t.device.gpuEnd
  cpuStart_nonneg : 0 ≤ t.device.cpuStart
  cpuStart_le : t.device.cpuStart ≤ t.device.cpuEnd
  mem_window : ∀ r ∈ t.records, t.device.gpuStart ≤ r.timestamp ∧ r.timestamp ≤ t.device.gpuEnd

namespace Track

variable {t t' : Track}

/-- **The readings of a track in processor time** are not after the end of its window, and not long
before its start. -/
theorem RunsForward.between (h : t.RunsForward) (hfits : t.device.Encodable) {r : Record}
    (hr : r ∈ t.records) {timestamp : Int} (hdates : t.Dates .processor r timestamp) :
    t.device.cpuStart - ClockMap.overshoot ≤ timestamp ∧ timestamp ≤ t.device.cpuEnd := by
  obtain ⟨-, hcpuStart, hgpuStart, hcpuEnd, hgpuEnd⟩ := hfits
  obtain ⟨hlow, hhigh⟩ := h.mem_window r hr
  have hlow' : -(t.device.gpuEnd - t.device.gpuStart) ≤ r.timestamp - t.device.gpuEnd := by omega
  have hstart := h.cpuStart_le
  have hsrc := IntField.natAbs_sub_le hgpuEnd hgpuStart
  have hdst := IntField.natAbs_sub_le hcpuEnd hcpuStart
  obtain ⟨clock, hclock, hconvert⟩ := hdates
  obtain ⟨clock', hclock', hstretched⟩ := ClockMap.exists_convert_ofWindow hsrc hdst
  obtain rfl : clock = clock' := Except.ok.inj (hclock.symm.trans hclock')
  have htimestamp := Except.ok.inj (hconvert.symm.trans (hstretched r.timestamp (by omega)))
  have hbounds := ClockMap.stretched_mem_window hsrc (by omega) hdst hlow' (by omega)
  omega

/-- The timestamps of a track in processor time fit into their fields. -/
theorem RunsForward.holds (h : t.RunsForward) (hfits : t.device.Encodable) {r : Record}
    (hr : r ∈ t.records) {timestamp : Int} (hdates : t.Dates .processor r timestamp) :
    IntField.i64.Holds timestamp := by
  obtain ⟨hlow, hhigh⟩ := h.between hfits hr hdates
  have hstart := h.cpuStart_nonneg
  have hcpuEnd := IntField.holds_i64_iff.mp hfits.2.2.2.1
  rw [ClockMap.overshoot] at hlow
  rw [IntField.holds_i64_iff]
  omega

/-- The numbers of a track that runs forward still fit in processor time. -/
theorem RunsForward.encodable (h : t.RunsForward) (hfits : t.Encodable)
    (hconverted : t.IsConverted t') : t'.Encodable := by
  refine ⟨hconverted.device_eq ▸ hfits.1, fun r' hr' => ?_⟩
  obtain ⟨r, hr, timestamp, hdates, rfl⟩ := exists_of_mem_forall₂ hconverted.records r' hr'
  obtain ⟨hcategory, hkind, hprocess, -, hhandle⟩ := hfits.2 r hr
  exact ⟨hcategory, hkind, hprocess, h.holds hfits.1 hr hdates, hhandle⟩

end Track

/-! ### Captures -/

namespace Capture

variable {c c' : Capture}

/-- The numbers of a capture whose clocks run forward still fit, and so do its counts. -/
theorem encodable_of_isConverted (hfits : c.Encodable) (hforward : ∀ t ∈ c.tracks, t.RunsForward)
    (h : List.Forall₂ Track.IsConverted c.tracks c'.tracks) : c'.Encodable := by
  refine ⟨fun t' ht' => ?_, h.length_eq ▸ hfits.2⟩
  obtain ⟨t, ht, htrack⟩ := exists_of_mem_forall₂ h t' ht'
  obtain ⟨hdevice, hrecords⟩ := (hforward t ht).encodable (hfits.track ht) htrack
  exact ⟨hdevice, hrecords, htrack.records.length_eq ▸ (hfits.1 t ht).2.2⟩

/-- A capture keeps its devices in processor time. -/
theorem devices_eq_of_isConverted (h : List.Forall₂ Track.IsConverted c.tracks c'.tracks) :
    c'.devices = c.devices := by
  rw [devices, devices]
  generalize c.tracks = tracks at h
  generalize c'.tracks = tracks' at h
  induction h with
  | nil => rfl
  | cons ht _ ih => rw [List.map_cons, List.map_cons, ht.device_eq, ih]

/-- **A capture whose clocks run forward is still written in processor time**, and read again as it
was. However long its windows are, no timestamp is after the end of its device, and all of them fit
into their fields. -/
theorem exists_encode?_toProcessorTime {bs : Bytes} (h : c.encode? = some bs)
    (hnames : ∀ d ∈ c.devices,
      '\x00' ∉ d.name.toList ∧ Utf8.size d.name ≤ Device.nameCapacity - 1)
    (hforward : ∀ t ∈ c.tracks, t.RunsForward) :
    ∃ c' bs', c.toProcessorTime = .ok c' ∧
      List.Forall₂ Track.IsConverted c.tracks c'.tracks ∧
      (∀ t' ∈ c'.tracks, ∀ r' ∈ t'.records,
        r'.timestamp ≤ t'.device.cpuEnd ∧ IntField.i64.Holds r'.timestamp) ∧
      c'.encode? = some bs' ∧ decode bs' = .ok c' := by
  have hfits := encodable_of_encode? h
  obtain ⟨tracks, htracks⟩ := exists_forall₂_of_forall fun t ht =>
    ((hfits.track ht).isDatable .processor).exists_toProcessorTime
  have hconverted : List.Forall₂ Track.IsConverted c.tracks tracks :=
    htracks.imp fun _ _ => Track.isConverted_of_toProcessorTime
  obtain ⟨bs', hbs'⟩ := Option.isSome_iff_exists.mp (isSome_encode?_of_encodable
    (encodable_of_isConverted hfits hforward hconverted : Capture.Encodable ⟨tracks⟩))
  refine ⟨⟨tracks⟩, bs', toProcessorTime_eq_ok_iff.mpr htracks, hconverted, ?_, hbs', ?_⟩
  · intro t' ht' r' hr'
    obtain ⟨t, ht, htrack⟩ := exists_of_mem_forall₂ hconverted t' ht'
    obtain ⟨r, hr, timestamp, hdates, rfl⟩ := exists_of_mem_forall₂ htrack.records r' hr'
    have hdevice := (hfits.track ht).1
    rw [htrack.device_eq]
    exact ⟨((hforward t ht).between hdevice hr hdates).2, (hforward t ht).holds hdevice hr hdates⟩
  · rw [decode_of_encode? hbs', stored_eq_self]
    rw [devices_eq_of_isConverted hconverted]
    exact hnames

/-- A device with clocks that run for more than 62 bits, and a record at the start. -/
def longRunning (timestamp : Int) : Capture :=
  ⟨[⟨⟨.zero, "GPU é", 0, 0, 0, 6811481785697220096, 6405877223187211196⟩,
    [⟨1, 1, 7, timestamp, 2⟩]⟩]⟩

/-- The start of this window is overshot, and the reading below zero is written and read again. -/
theorem exists_encode?_toProcessorTime_longRunning :
    (longRunning 0).toProcessorTime = .ok (longRunning (-1536)) ∧
      ∃ bs, (longRunning (-1536)).encode? = some bs ∧ decode bs = .ok (longRunning (-1536)) := by
  obtain ⟨bs, hbs⟩ := Option.isSome_iff_exists.mp
    (isSome_encode?_of_encodable (by decide : (longRunning 0).Encodable))
  have hforward : ∀ t ∈ (longRunning 0).tracks, t.RunsForward := by
    simp only [longRunning, List.forall_mem_singleton]
    exact ⟨by decide, by decide, by decide, by decide⟩
  have hconvert : (longRunning 0).toProcessorTime = .ok (longRunning (-1536)) := by
    decide +kernel
  obtain ⟨c', bs', hc', -, -, hbs', hread⟩ :=
    exists_encode?_toProcessorTime hbs (by decide) hforward
  obtain rfl : longRunning (-1536) = c' := Except.ok.inj (hconvert.symm.trans hc')
  exact ⟨hconvert, bs', hbs', hread⟩

end Capture

end SwitchTrace
