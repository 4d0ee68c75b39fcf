import SwitchTrace.Proofs.Files.Consumption
import SwitchTrace.Proofs.Files.Storing
import SwitchTrace.Proofs.Synthetic.Shape
import SwitchTrace.Synthetic.Demo

/-!
# Demonstration captures in files

A demonstration capture has the duration and the rate that a plan has unless others are given, and
up to `2 ^ 31` devices and records of each. Its clocks stay far below the ends of their fields: the
device clocks start a microsecond apart, and a record is no later after the one before it than the
capture is long. The names of the devices are short, so that nothing of them is cut off. So the
capture can be written, and it is read back as it is.

## Main definitions

* `SyntheticPlan.demonstration` — the plan of a demonstration capture.
* `Capture.IsLossless` — a capture is written, stored and read back as it is.

## Main results

* `Capture.isLossless_of_encodable` — the captures whose numbers and names fit.
* `Capture.demo_lossless` — demonstration captures are lossless.
-/

namespace SwitchTrace

/-! ### Names -/

theorem Utf8.charSize_le (c : Char) : charSize c ≤ 4 := by
  rw [charSize, encodeChar]
  split_ifs <;> simp

/-- A text has four times as many bytes as characters at most. -/
theorem Utf8.size_le (s : String) : size s ≤ 4 * s.toList.length := by
  rw [size, encode]
  induction s.toList with
  | nil => simp [encodeChars]
  | cons c cs ih =>
    have hsize := charSize_le c
    rw [charSize] at hsize
    rw [encodeChars_cons, List.length_append, List.length_cons]
    omega

/-- **The name of a synthetic device** fits into its field and has no NUL. -/
theorem Device.synthetic_name_fits {index : Nat} (h : index < 10 ^ 10) :
    '\x00' ∉ ("Synthetic GPU " ++ toString index).toList ∧
      Utf8.size ("Synthetic GPU " ++ toString index) ≤ nameCapacity - 1 := by
  have hdigits : (toString index).toList = Nat.toDigits 10 index := Nat.toList_repr
  have hfew : (Nat.toDigits 10 index).length ≤ 10 :=
    (Nat.length_toDigits_le_iff (by decide) (by decide)).mpr h
  constructor
  · rw [String.toList_append, hdigits, List.mem_append, not_or]
    refine ⟨by decide, fun hmem => ?_⟩
    exact absurd (Nat.isDigit_of_mem_toDigits (by decide) (by decide) hmem) (by decide)
  · refine (Utf8.size_le _).trans ?_
    have hword : "Synthetic GPU ".toList.length = 14 := rfl
    rw [String.toList_append, List.length_append, hdigits, hword, nameCapacity]
    omega

/-! ### Plans -/

namespace SyntheticPlan

/-- The plan of a demonstration capture. -/
def demonstration (deviceCount recordsPerDevice : Int) : SyntheticPlan :=
  { tickRate := standardRate, deviceCount, recordsPerDevice }

/-- The processor clock of a demonstration capture runs for three ticks a nanosecond. -/
theorem timesTruncated_standardRate :
    standardRate.timesTruncated 10000000 = .ok 30000000 := by
  decide +kernel

variable {plan : SyntheticPlan} {clients : List Client} {switchedIn : Bool} {last : Client}
  {time : Int} {records : List Record}

/-- Every record is a context switch, and switches a context in or out. -/
theorem Follows.kind_mem (h : plan.Follows clients switchedIn last time records) :
    ∀ r ∈ records, r.category = 1 ∧ 1 ≤ r.kind ∧ r.kind ≤ 2 := by
  induction h with
  | nil => simp
  | switchIn hclient hleast hgreatest hrest ih =>
    rw [List.forall_mem_cons]
    exact ⟨by simp [switchRecord], ih⟩
  | switchOut hleast hgreatest hrest ih =>
    rw [List.forall_mem_cons]
    exact ⟨by simp [switchRecord], ih⟩

/-- A record is no later after the one before it than the capture is long. -/
theorem greatestGap_le (hduration : 1 ≤ plan.duration) : plan.greatestGap ≤ plan.duration := by
  have hshare : plan.step ≤ plan.duration := by
    rw [step, Int.fdiv_eq_ediv_of_nonneg _ (by omega)]
    exact Int.ediv_le_self _ (by omega)
  rw [greatestGap]
  omega

/-- The last record is no later than the duration for each record would make it. -/
theorem Follows.timestamp_le (h : plan.Follows clients switchedIn last time records)
    (hduration : 1 ≤ plan.duration) :
    ∀ r ∈ records, r.timestamp ≤ time + records.length * plan.duration := by
  intro r hr
  obtain ⟨i, hi, rfl⟩ := List.getElem_of_mem hr
  have hgap : (i : Int) * plan.greatestGap ≤ records.length * plan.duration :=
    Int.mul_le_mul (by omega) (greatestGap_le hduration) (by rw [greatestGap]; omega) (by omega)
  have hlatest := (h.timestamp_mem i hi).2
  omega

section Demonstration

variable {deviceCount recordsPerDevice : Int}

theorem yields_demonstration {σ : Type} {source : RandomSource σ} (hs : source.Sound) :
    Synthesis.Yields ((demonstration deviceCount recordsPerDevice).generate source) fun c =>
      List.Forall₂ (fun index t =>
          (demonstration deviceCount recordsPerDevice).Describes 30000000 index t.device ∧
          (demonstration deviceCount recordsPerDevice).Makes t)
        (List.range' 0 deviceCount.toNat) c.tracks :=
  yields_generate hs (show (0 : Int) ≤ 10000000 by decide) (show (1 : Int) ≤ 4 by decide)
    timesTruncated_standardRate

/-- The readings of the clocks of a device are far below the ends of their fields. -/
theorem Describes.readings_mem {index : Nat} {d : Device}
    (h : (demonstration deviceCount recordsPerDevice).Describes 30000000 index d)
    (hindex : index < 2 ^ 31) : ∀ n ∈ d.readings, 0 ≤ n ∧ n < 2 ^ 42 := by
  have hgpuStart : d.gpuStart = 1000000000 + index * 1000 := h.gpuStart_eq
  have hgpuEnd : d.gpuEnd = d.gpuStart + 10000000 := h.gpuEnd_eq
  have hcpuStart : 50000000000 ≤ d.cpuStart ∧ d.cpuStart < 50000000000 + 1000000 := h.cpuStart_mem
  have hcpuEnd := h.cpuEnd_eq
  simp only [Device.readings, List.forall_mem_cons, List.not_mem_nil, false_imp_iff, implies_true,
    and_true]
  omega

/-- So are the times of its records. -/
theorem Makes.timestamp_mem {index : Nat} {t : Track}
    (h : (demonstration deviceCount recordsPerDevice).Makes t)
    (hdevice : (demonstration deviceCount recordsPerDevice).Describes 30000000 index t.device)
    (hindex : index < 2 ^ 31) (hrecords : recordsPerDevice < 2 ^ 31) :
    ∀ r ∈ t.records, 0 ≤ r.timestamp ∧ r.timestamp < 2 ^ 62 := by
  obtain ⟨hlength, clients, -, -, hfollows⟩ := h
  have hstart := hdevice.readings_mem hindex t.device.gpuStart (by simp [Device.readings])
  have hcount : (t.records.length : Int) < 2 ^ 31 := by
    have hlength : t.records.length = recordsPerDevice.toNat := hlength
    omega
  intro r hr
  have hearliest := hfollows.le_timestamp r hr
  have hlatest : r.timestamp ≤ t.device.gpuStart + t.records.length * 10000000 :=
    hfollows.timestamp_le (show (1 : Int) ≤ 10000000 by decide) r hr
  omega

end Demonstration

end SyntheticPlan

/-! ### Captures -/

/-- A demonstration capture that can be stored is written and returned. -/
theorem FileTree.writeDemo_eq_ok {t t' : FileTree} {path : Path}
    {deviceCount recordsPerDevice seed : Int} {c : Capture}
    (hdemo : Capture.demo deviceCount recordsPerDevice seed = .ok c)
    (hstore : t.storeCapture path c = .ok t') :
    t.writeDemo path deviceCount recordsPerDevice seed = .ok (c, t') := by
  -- Storing is made opaque first. With it in view, its outcome is evaluated down to the bytes.
  have hwrite (store : Capture → Except CaptureFault FileTree) (h : store c = .ok t') :
      (do
        let c ← (Except.ok c).mapError DemoFault.synthesis
        let t ← (store c).mapError DemoFault.capture
        return (c, t)) = .ok (c, t') := by
    change (do let t ← (store c).mapError DemoFault.capture; return (c, t)) = .ok (c, t')
    rw [h]
    rfl
  rw [writeDemo, hdemo]
  exact hwrite (t.storeCapture path) hstore

namespace Capture

/-- The capture can be written, and from its bytes, and from a file to which it is written, it is
read back as it is. -/
structure IsLossless (c : Capture) : Prop where
  encodable : c.Encodable
  reread : ∃ bs, c.encode? = some bs ∧ decode bs = .ok c
  reloaded : ∀ (t : FileTree) (path : Path), t.IsWritable path →
    ∃ t', t.storeCapture path c = .ok t' ∧ (t'.loadCapture path).outcome = .ok c

/-- **A capture whose numbers and names fit is lossless.** -/
theorem isLossless_of_encodable {c : Capture} (hfits : c.Encodable)
    (hnames : ∀ d ∈ c.devices, '\x00' ∉ d.name.toList ∧
      Utf8.size d.name ≤ Device.nameCapacity - 1) : c.IsLossless := by
  obtain ⟨bs, hbs⟩ := Option.isSome_iff_exists.mp (isSome_encode?_of_encodable hfits)
  have hread : decode bs = .ok c := by
    rw [decode_of_encode? hbs, stored_eq_self hnames]
  refine ⟨hfits, ⟨bs, hbs, hread⟩, fun t path hpath => ?_⟩
  obtain ⟨t', hwrite⟩ := FileTree.exists_write_iff.mpr hpath
  refine ⟨t', FileTree.storeCapture_eq_ok_iff.mpr ⟨bs, hbs, hwrite⟩, ?_⟩
  rw [FileTree.loadCapture_of_decode (FileTree.read_of_write hwrite) hread]

section Demonstration

variable {deviceCount recordsPerDevice : Int} (hdevices : deviceCount < 2 ^ 31)
  (hrecords : recordsPerDevice < 2 ^ 31) {c : Capture}
  (hmade : List.Forall₂ (fun index t =>
      (SyntheticPlan.demonstration deviceCount recordsPerDevice).Describes 30000000 index t.device ∧
      (SyntheticPlan.demonstration deviceCount recordsPerDevice).Makes t)
    (List.range' 0 deviceCount.toNat) c.tracks)

include hdevices hmade

/-- Every track of a demonstration capture is one of its plan. -/
theorem exists_index_of_demonstration : ∀ t ∈ c.tracks, ∃ index < 2 ^ 31,
    (SyntheticPlan.demonstration deviceCount recordsPerDevice).Describes 30000000 index t.device ∧
      (SyntheticPlan.demonstration deviceCount recordsPerDevice).Makes t := by
  intro t ht
  obtain ⟨index, hindex, h⟩ := exists_of_mem_forall₂ hmade t ht
  rw [List.mem_range'_1] at hindex
  exact ⟨index, by omega, h⟩

include hrecords

/-- **All numbers of a demonstration capture fit into their fields.** -/
theorem encodable_of_demonstration : c.Encodable := by
  have htrack := exists_index_of_demonstration hdevices hmade
  have hdevice : ∀ d ∈ c.devices, d.traceError = 0 ∧ ∀ n ∈ d.readings, 0 ≤ n ∧ n < 2 ^ 42 := by
    intro d hd
    obtain ⟨t, ht, rfl⟩ := List.mem_map.mp hd
    obtain ⟨index, hindex, hdescribes, -⟩ := htrack t ht
    exact ⟨hdescribes.traceError_eq, hdescribes.readings_mem hindex⟩
  by_contra hoverflows
  rw [← overflows_iff] at hoverflows
  cases hoverflows with
  | traceError hd h =>
    rw [(hdevice _ hd).1] at h
    omega
  | reading hd hn h =>
    have hreading := (hdevice _ hd).2 _ hn
    omega
  | category ht hr h =>
    obtain ⟨index, -, -, -, clients, -, -, hfollows⟩ := htrack _ ht
    have hkind := hfollows.kind_mem _ hr
    omega
  | kind ht hr h =>
    obtain ⟨index, -, -, -, clients, -, -, hfollows⟩ := htrack _ ht
    have hkind := hfollows.kind_mem _ hr
    omega
  | @process t ht r hr h =>
    obtain ⟨index, -, -, -, clients, -, hdrawn, hfollows⟩ := htrack _ ht
    have hprocess : 1000 ≤ r.process ∧ r.process < 31000 :=
      (hdrawn _ (hfollows.client_mem nofun _ hr)).process
    omega
  | timestamp ht hr h =>
    obtain ⟨index, hindex, hdescribes, hmakes⟩ := htrack _ ht
    have htime := hmakes.timestamp_mem hdescribes hindex hrecords _ hr
    omega
  | @handle t ht r hr h =>
    obtain ⟨index, -, -, -, clients, -, hdrawn, hfollows⟩ := htrack _ ht
    have hhandle : 0 ≤ r.handle ∧ r.handle < 2 ^ 64 :=
      (hdrawn _ (hfollows.client_mem nofun _ hr)).handle
    omega
  | @records t ht h =>
    obtain ⟨index, -, -, hlength, -⟩ := htrack _ ht
    have hlength : t.records.length = recordsPerDevice.toNat := hlength
    omega
  | devices h =>
    have hcount : c.deviceCount = deviceCount.toNat := by
      rw [Capture.deviceCount, ← hmade.length_eq, List.length_range']
    omega

omit hrecords in
/-- The names of the devices of a demonstration capture fit into their fields. -/
theorem names_of_demonstration : ∀ d ∈ c.devices, '\x00' ∉ d.name.toList ∧
    Utf8.size d.name ≤ Device.nameCapacity - 1 := by
  intro d hd
  obtain ⟨t, ht, rfl⟩ := List.mem_map.mp hd
  obtain ⟨index, hindex, hdescribes, -⟩ := exists_index_of_demonstration hdevices hmade t ht
  obtain ⟨hnul, hfits⟩ := Device.synthetic_name_fits (Nat.lt_trans hindex (by decide))
  rw [hdescribes.name_eq, Device.storedName_eq_self hfits]
  exact ⟨hnul, hfits⟩

theorem isLossless_of_demonstration : c.IsLossless :=
  isLossless_of_encodable (encodable_of_demonstration hdevices hrecords hmade)
    (names_of_demonstration hdevices hmade)

end Demonstration

/-- **Demonstration captures are lossless.** Up to `2 ^ 31` devices and records of each, and
whatever random numbers a source gives in the ranges that it is asked for, there is a capture; all
its numbers fit into their fields, its bytes are read back as the capture itself, and so is any file
to which it can be written. With a seed this is the capture that is returned when it is written. -/
theorem demo_lossless {deviceCount recordsPerDevice : Int} (hdevices : deviceCount < 2 ^ 31)
    (hrecords : recordsPerDevice < 2 ^ 31) :
    (∀ {σ : Type} {source : RandomSource σ}, source.Sound → ∀ s, ∃ c s',
      ((SyntheticPlan.demonstration deviceCount recordsPerDevice).generate source).run.run s =
        (.ok c, s') ∧ c.IsLossless) ∧
    ∀ seed, ∃ c, demo deviceCount recordsPerDevice seed = .ok c ∧ c.IsLossless ∧
      ∀ (t : FileTree) (path : Path), t.IsWritable path →
        ∃ t', t.writeDemo path deviceCount recordsPerDevice seed = .ok (c, t') ∧
          (t'.loadCapture path).outcome = .ok c := by
  have hmade {σ : Type} {source : RandomSource σ} (hs : source.Sound) (s : σ) : ∃ c s',
      ((SyntheticPlan.demonstration deviceCount recordsPerDevice).generate source).run.run s =
        (.ok c, s') ∧ c.IsLossless := by
    obtain ⟨c, s', hrun, hmade⟩ := SyntheticPlan.yields_demonstration hs s
    exact ⟨c, s', hrun, isLossless_of_demonstration hdevices hrecords hmade⟩
  refine ⟨hmade, fun seed => ?_⟩
  obtain ⟨c, s', hrun, hlossless⟩ := hmade MersenneTwister.source_sound (.ofSeed seed)
  have hdemo : demo deviceCount recordsPerDevice seed = .ok c := congrArg Prod.fst hrun
  refine ⟨c, hdemo, hlossless, fun t path hpath => ?_⟩
  obtain ⟨t', hstore, hload⟩ := hlossless.reloaded t path hpath
  exact ⟨t', FileTree.writeDemo_eq_ok hdemo hstore, hload⟩

/-- A demonstration capture has as many devices as asked for, and as many records of each. -/
theorem counts_of_demo {deviceCount recordsPerDevice seed : Int} {c : Capture}
    (h : demo deviceCount recordsPerDevice seed = .ok c) : c.deviceCount = deviceCount.toNat ∧
      ∀ t ∈ c.tracks, t.records.length = recordsPerDevice.toNat := by
  obtain ⟨c', s', hrun, hmade⟩ := @SyntheticPlan.yields_demonstration deviceCount
    recordsPerDevice _ _ MersenneTwister.source_sound (.ofSeed seed)
  have hdemo : demo deviceCount recordsPerDevice seed = .ok c' := congrArg Prod.fst hrun
  obtain rfl : c = c' := Except.ok.inj (h.symm.trans hdemo)
  refine ⟨by rw [Capture.deviceCount, ← hmade.length_eq, List.length_range'], fun t ht => ?_⟩
  obtain ⟨index, -, -, hmakes⟩ := exists_of_mem_forall₂ hmade t ht
  exact hmakes.1

/-- Two devices with twenty-five records each are written to a new file and read back. -/
theorem demo_lossless_newFile : ∃ c t', demo 2 25 42 = .ok c ∧ c.deviceCount = 2 ∧
    (∀ t ∈ c.tracks, t.records.length = 25) ∧ c.Encodable ∧
    (⟨[], []⟩ : FileTree).writeDemo ⟨"", ["demo"]⟩ 2 25 42 = .ok (c, t') ∧
    (t'.loadCapture ⟨"", ["demo"]⟩).outcome = .ok c := by
  obtain ⟨c, hdemo, hlossless, hfiles⟩ :=
    (@demo_lossless 2 25 (by decide) (by decide)).2 42
  have hwritable : (⟨[], []⟩ : FileTree).IsWritable ⟨"", ["demo"]⟩ := ⟨["demo"], rfl, by decide⟩
  obtain ⟨t', hwrite, hload⟩ := hfiles _ _ hwritable
  obtain ⟨hdevices, hrecords⟩ := counts_of_demo hdemo
  exact ⟨c, t', hdemo, hdevices, hrecords, hlossless.encodable, hwrite, hload⟩

end Capture

end SwitchTrace
