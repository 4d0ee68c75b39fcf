import SwitchTrace.Proofs.Capture.Extent

/-!
# Captures that cannot be written

A capture is written unless something in it does not fit: a number into its field, or the number of
elements of an array into the header. One such place anywhere is enough, in the last record of the
last device as well as in the first descriptor. Where everything fits, the number of bytes depends
on the numbers of elements only.

## Main definitions

* `Capture.Overflows` — what keeps a capture from being written, field by field.

## Main results

* `Capture.overflows_iff`, `Capture.encode?_eq_none_iff` — the captures that cannot be written.
* `Capture.length_of_encode?` — the number of bytes of the others.
-/

namespace SwitchTrace

/-- The readings of both clocks at the start and at the end of a capture. -/
def Device.readings (d : Device) : List Int := [d.cpuStart, d.gpuStart, d.cpuEnd, d.gpuEnd]

namespace Capture

variable {c : Capture} {bs : Bytes}

/-- What keeps a capture from being written: a number that its field cannot hold, or an array with
more elements than its header can say. -/
inductive Overflows (c : Capture) : Prop
  /-- A trace error that is no byte. -/
  | traceError {d : Device} (hd : d ∈ c.devices)
      (h : ¬ (0 ≤ d.traceError ∧ d.traceError < 256))
  /-- A reading of a clock beyond 64 bits with a sign. -/
  | reading {d : Device} (hd : d ∈ c.devices) {n : Int} (hn : n ∈ d.readings)
      (h : ¬ (-9223372036854775808 ≤ n ∧ n < 9223372036854775808))
  /-- A category beyond 16 bits. -/
  | category {t : Track} (ht : t ∈ c.tracks) {r : Record} (hr : r ∈ t.records)
      (h : ¬ (0 ≤ r.category ∧ r.category < 65536))
  /-- A kind beyond 16 bits. -/
  | kind {t : Track} (ht : t ∈ c.tracks) {r : Record} (hr : r ∈ t.records)
      (h : ¬ (0 ≤ r.kind ∧ r.kind < 65536))
  /-- A process beyond 32 bits. -/
  | process {t : Track} (ht : t ∈ c.tracks) {r : Record} (hr : r ∈ t.records)
      (h : ¬ (0 ≤ r.process ∧ r.process < 4294967296))
  /-- A time of a record beyond 64 bits with a sign. -/
  | timestamp {t : Track} (ht : t ∈ c.tracks) {r : Record} (hr : r ∈ t.records)
      (h : ¬ (-9223372036854775808 ≤ r.timestamp ∧ r.timestamp < 9223372036854775808))
  /-- A context handle beyond 64 bits. -/
  | handle {t : Track} (ht : t ∈ c.tracks) {r : Record} (hr : r ∈ t.records)
      (h : ¬ (0 ≤ r.handle ∧ r.handle < 18446744073709551616))
  /-- Too many records of one device. -/
  | records {t : Track} (ht : t ∈ c.tracks) (h : 2147483648 ≤ t.records.length)
  /-- Too many devices. -/
  | devices (h : 2147483648 ≤ c.deviceCount)

/-- A header can say every number of elements below `2 ^ 31`. -/
theorem holds_i32_natCast_iff {n : Nat} : IntField.i32.Holds n ↔ n < 2147483648 := by
  have h : IntField.i32.Holds n ↔ -2147483648 ≤ (n : Int) ∧ (n : Int) < 2147483648 := Iff.rfl
  rw [h]
  omega

/-- A capture overflows just if not all of its numbers fit. -/
theorem overflows_iff : c.Overflows ↔ ¬ c.Encodable := by
  constructor
  · rintro h ⟨htracks, hcount⟩
    have hdevice : ∀ d ∈ c.devices, d.Encodable := by
      intro d hd
      obtain ⟨t, ht, rfl⟩ := List.mem_map.mp hd
      exact (htracks t ht).1
    cases h with
    | traceError hd h => exact h (hdevice _ hd).1
    | @reading d hd n hn h =>
      obtain ⟨-, hcpuStart, hgpuStart, hcpuEnd, hgpuEnd⟩ := hdevice _ hd
      have hreadings : ∀ n ∈ d.readings, IntField.i64.Holds n := by
        simp only [Device.readings, List.forall_mem_cons]
        exact ⟨hcpuStart, hgpuStart, hcpuEnd, hgpuEnd, nofun⟩
      exact h (hreadings n hn)
    | category ht hr h => exact h ((htracks _ ht).2.1 _ hr).1
    | kind ht hr h => exact h ((htracks _ ht).2.1 _ hr).2.1
    | process ht hr h => exact h ((htracks _ ht).2.1 _ hr).2.2.1
    | timestamp ht hr h => exact h ((htracks _ ht).2.1 _ hr).2.2.2.1
    | handle ht hr h => exact h ((htracks _ ht).2.1 _ hr).2.2.2.2
    | records ht h => exact Nat.not_lt.mpr h (holds_i32_natCast_iff.mp (htracks _ ht).2.2)
    | devices h => exact Nat.not_lt.mpr h (holds_i32_natCast_iff.mp hcount)
  · intro h
    by_contra hno
    refine h ⟨fun t ht => ⟨?_, fun r hr => ⟨?_, ?_, ?_, ?_, ?_⟩, ?_⟩, ?_⟩
    · have hd : t.device ∈ c.devices := List.mem_map_of_mem ht
      have hreading : ∀ n ∈ t.device.readings, IntField.i64.Holds n := fun n hn =>
        of_not_not fun h => hno (.reading hd hn h)
      simp only [Device.readings, List.forall_mem_cons] at hreading
      obtain ⟨hcpuStart, hgpuStart, hcpuEnd, hgpuEnd, -⟩ := hreading
      exact ⟨of_not_not fun h => hno (.traceError hd h), hcpuStart, hgpuStart, hcpuEnd, hgpuEnd⟩
    · exact of_not_not fun h => hno (.category ht hr h)
    · exact of_not_not fun h => hno (.kind ht hr h)
    · exact of_not_not fun h => hno (.process ht hr h)
    · exact of_not_not fun h => hno (.timestamp ht hr h)
    · exact of_not_not fun h => hno (.handle ht hr h)
    · exact holds_i32_natCast_iff.mpr (Nat.not_le.mp fun h => hno (.records ht h))
    · exact holds_i32_natCast_iff.mpr (Nat.not_le.mp fun h => hno (.devices h))

/-- **The captures that cannot be written** are those that overflow. -/
theorem encode?_eq_none_iff : c.encode? = none ↔ c.Overflows := by
  rw [overflows_iff, ← Option.not_isSome_iff_eq_none]
  refine not_congr ⟨fun h => ?_, isSome_encode?_of_encodable⟩
  obtain ⟨bs, hbs⟩ := Option.isSome_iff_exists.mp h
  exact encodable_of_encode? hbs

/-- **The number of bytes of a capture** depends on the numbers of its elements only. -/
theorem length_of_encode? (h : c.encode? = some bs) : bs.length =
    16 + 288 * c.deviceCount + (c.tracks.map fun t => 8 + 24 * t.records.length).sum := by
  obtain ⟨image, rfl, hcurrent, hwrites⟩ := encode?_eq_some_iff_exists_image.mp h
  have hdevices : image.devices.count = c.deviceCount := by
    rw [ArrayFrame.count, hwrites.devices.length_eq, Capture.devices, List.length_map, deviceCount]
  have hrecords : image.records.map (fun f => ArrayHeader.size + f.count * f.stride) =
      c.tracks.map fun t => 8 + 24 * t.records.length := by
    rw [← List.forall₂_eq_eq_eq, List.forall₂_map_left_iff, List.forall₂_map_right_iff]
    have hframes := (List.forall₂_and_left _ _).mpr ⟨hcurrent.records, hwrites.records⟩
    refine hframes.imp ?_
    rintro f t ⟨hstride, hwrites⟩
    rw [hstride, ArrayFrame.count, hwrites.length_eq, Nat.mul_comm, ArrayHeader.size, Record.width]
  rw [image.length_bytes, Image.size, hcurrent.devices, hdevices, hrecords, Nat.mul_comm,
    ← Nat.add_assoc magic.length]
  rfl

end Capture

end SwitchTrace
