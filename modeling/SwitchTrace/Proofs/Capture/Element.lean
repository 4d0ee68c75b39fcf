import Mathlib.Data.List.TakeWhile
import SwitchTrace.Capture.Basic
import SwitchTrace.Proofs.Byte.Field
import SwitchTrace.Proofs.Text.Utf8

/-!
# Elements of a capture, written and read

A record is read back from its bytes as it was. A device descriptor is read back except for its
name, of which only that part survives which fits into the field and comes before the first NUL.

## Main definitions

* `Device.beforeNul`, `Device.stored` — what is left of a name, and of a descriptor.
* `Track.stored`, `Capture.stored` — what is left of a capture.

## Main results

* `Record.ofBytes?_of_encode?`, `Device.ofBytes?_of_encode?` — elements are read back.
* `Record.isSome_encode?_iff`, `Device.isSome_encode?_iff` — when they can be written.
* `Device.stored_eq_self` — descriptors of which nothing is lost.
-/

namespace SwitchTrace

theorem IntField.isSome_encode?_iff {f : IntField} {x : Int} :
    (f.encode? x).isSome = true ↔ f.Holds x := by
  simp [encode?]

/-! ### Records -/

namespace Record

variable {r : Record} {bs : Bytes}

/-- The bytes of a record are the bytes of its fields, in the order of the layout. -/
theorem encode?_eq_some_iff : r.encode? = some bs ↔
    ∃ category, IntField.u16.encode? r.category = some category ∧
    ∃ kind, IntField.u16.encode? r.kind = some kind ∧
    ∃ process, IntField.u32.encode? r.process = some process ∧
    ∃ timestamp, IntField.i64.encode? r.timestamp = some timestamp ∧
    ∃ handle, IntField.u64.encode? r.handle = some handle ∧
      category ++ (kind ++ (process ++ (timestamp ++ handle))) = bs := by
  simp only [encode?, Option.bind_eq_bind, Option.bind_eq_some_iff, Option.pure_def,
    Option.some.injEq]

theorem isSome_encode?_iff : r.encode?.isSome = true ↔ r.Encodable := by
  simp only [Encodable, ← IntField.isSome_encode?_iff, Option.isSome_iff_exists,
    encode?_eq_some_iff]
  constructor
  · rintro ⟨_, category, h1, kind, h2, process, h3, timestamp, h4, handle, h5, -⟩
    exact ⟨⟨category, h1⟩, ⟨kind, h2⟩, ⟨process, h3⟩, ⟨timestamp, h4⟩, ⟨handle, h5⟩⟩
  · rintro ⟨⟨category, h1⟩, ⟨kind, h2⟩, ⟨process, h3⟩, ⟨timestamp, h4⟩, ⟨handle, h5⟩⟩
    exact ⟨_, category, h1, kind, h2, process, h3, timestamp, h4, handle, h5, rfl⟩

theorem length_of_encode? (h : r.encode? = some bs) : bs.length = width := by
  obtain ⟨category, h1, kind, h2, process, h3, timestamp, h4, handle, h5, rfl⟩ :=
    encode?_eq_some_iff.mp h
  simp only [List.length_append, IntField.length_of_encode? h1, IntField.length_of_encode? h2,
    IntField.length_of_encode? h3, IntField.length_of_encode? h4, IntField.length_of_encode? h5]
  rfl

/-- The record of five fields that follow one another. -/
theorem ofBytes?_append {category kind process timestamp handle : Bytes}
    (h1 : category.length = 2) (h2 : kind.length = 2) (h3 : process.length = 4)
    (h4 : timestamp.length = 8) (h5 : handle.length = 8) :
    ofBytes? (category ++ (kind ++ (process ++ (timestamp ++ handle)))) = some {
      category := IntField.u16.decode category
      kind := IntField.u16.decode kind
      process := IntField.u32.decode process
      timestamp := IntField.i64.decode timestamp
      handle := IntField.u64.decode handle } := by
  have hlen : width ≤ (category ++ (kind ++ (process ++ (timestamp ++ handle)))).length := by
    simp only [List.length_append, h1, h2, h3, h4, h5]
    decide
  rw [ofBytes?, if_pos hlen]
  simp only [slice_zero_append h1, slice_append_of_le h1, slice_zero_append h2,
    slice_append_of_le h2, slice_zero_append h3, slice_append_of_le h3, slice_zero_append h4,
    slice_append_of_le h4, slice_zero_self h5, Nat.reduceLeDiff, Nat.reduceSub]

/-- **A record is read back from its bytes.** -/
theorem ofBytes?_of_encode? (h : r.encode? = some bs) : ofBytes? bs = some r := by
  obtain ⟨category, h1, kind, h2, process, h3, timestamp, h4, handle, h5, rfl⟩ :=
    encode?_eq_some_iff.mp h
  rw [ofBytes?_append (IntField.length_of_encode? h1) (IntField.length_of_encode? h2)
    (IntField.length_of_encode? h3) (IntField.length_of_encode? h4)
    (IntField.length_of_encode? h5), IntField.decode_of_encode? h1, IntField.decode_of_encode? h2,
    IntField.decode_of_encode? h3, IntField.decode_of_encode? h4, IntField.decode_of_encode? h5]

/-- As many bytes as a record has are always read. -/
theorem exists_ofBytes? (h : width ≤ bs.length) : ∃ r, ofBytes? bs = some r := by
  rw [ofBytes?, if_pos h]
  exact ⟨_, rfl⟩

end Record

/-! ### Device descriptors -/

namespace Device

variable {d : Device} {bs : Bytes}

/-- The characters of a name before its first NUL. -/
def beforeNul (name : String) : String := String.ofList (name.toList.takeWhile (· != '\x00'))

/-- The descriptor that is left after writing: of the name the longest start that fits into the
field, up to its first NUL. -/
def stored (d : Device) : Device := { d with name := beforeNul (storedName d.name) }

/-- A name that is cut leaves a byte of its field for the NUL. -/
theorem size_storedName_le (name : String) : Utf8.size (storedName name) ≤ nameCapacity - 1 := by
  rw [Utf8.size, Utf8.encode, storedName, Utf8.truncate, String.toList_ofList]
  exact Utf8.length_encodeChars_truncateChars_le _ _

/-- Nothing but the end of a name is cut off. -/
theorem storedName_isPrefix (name : String) : (storedName name).toList <+: name.toList := by
  rw [storedName, Utf8.truncate, String.toList_ofList]
  exact Utf8.truncateChars_prefix _ _

theorem storedName_eq_self {name : String} (h : Utf8.size name ≤ nameCapacity - 1) :
    storedName name = name := by
  rw [storedName, Utf8.truncate, Utf8.truncateChars_eq_self h, String.ofList_toList]

/-- The bytes of a name are followed by at least one NUL in their field. -/
theorem exists_nameField_eq (name : String) :
    ∃ k, nameField name = Utf8.encode (storedName name) ++ List.replicate (k + 1) 0 := by
  have hsize := size_storedName_le name
  rw [Utf8.size, nameCapacity] at hsize
  obtain ⟨k, hk⟩ : ∃ k, nameCapacity - (Utf8.encode (storedName name)).length = k + 1 :=
    ⟨238 - (Utf8.encode (storedName name)).length, by rw [nameCapacity]; omega⟩
  exact ⟨k, by rw [nameField, padded, hk]⟩

/-- **A name is read back from its field** up to its first NUL, after it has been cut to fit. -/
theorem fieldName_nameField (name : String) :
    fieldName (nameField name) = beforeNul (storedName name) := by
  obtain ⟨k, hfield⟩ := exists_nameField_eq name
  rw [fieldName, hfield, List.replicate_succ, Utf8.encode, Utf8.takeWhile_encodeChars_append,
    Utf8.decodeLossy_encodeChars]
  rfl

theorem length_nameField (name : String) : (nameField name).length = nameCapacity := by
  have hsize := size_storedName_le name
  rw [nameCapacity] at hsize
  rw [nameField, padded, List.length_append, List.length_replicate, ← Utf8.size, nameCapacity]
  omega

/-- The bytes of a descriptor are the bytes of its fields, in the order of the layout. -/
theorem encode?_eq_some_iff : d.encode? = some bs ↔
    ∃ traceError, IntField.u8.encode? d.traceError = some traceError ∧
    ∃ cpuStart, IntField.i64.encode? d.cpuStart = some cpuStart ∧
    ∃ gpuStart, IntField.i64.encode? d.gpuStart = some gpuStart ∧
    ∃ cpuEnd, IntField.i64.encode? d.cpuEnd = some cpuEnd ∧
    ∃ gpuEnd, IntField.i64.encode? d.gpuEnd = some gpuEnd ∧
      d.uuid.bytes ++ (nameField d.name ++ (traceError ++
        (cpuStart ++ (gpuStart ++ (cpuEnd ++ gpuEnd))))) = bs := by
  simp only [encode?, Option.bind_eq_bind, Option.bind_eq_some_iff, Option.pure_def,
    Option.some.injEq]

theorem isSome_encode?_iff : d.encode?.isSome = true ↔ d.Encodable := by
  simp only [Encodable, ← IntField.isSome_encode?_iff, Option.isSome_iff_exists,
    encode?_eq_some_iff]
  constructor
  · rintro ⟨_, traceError, h1, cpuStart, h2, gpuStart, h3, cpuEnd, h4, gpuEnd, h5, -⟩
    exact ⟨⟨traceError, h1⟩, ⟨cpuStart, h2⟩, ⟨gpuStart, h3⟩, ⟨cpuEnd, h4⟩, ⟨gpuEnd, h5⟩⟩
  · rintro ⟨⟨traceError, h1⟩, ⟨cpuStart, h2⟩, ⟨gpuStart, h3⟩, ⟨cpuEnd, h4⟩, ⟨gpuEnd, h5⟩⟩
    exact ⟨_, traceError, h1, cpuStart, h2, gpuStart, h3, cpuEnd, h4, gpuEnd, h5, rfl⟩

theorem length_of_encode? (h : d.encode? = some bs) : bs.length = width := by
  obtain ⟨traceError, h1, cpuStart, h2, gpuStart, h3, cpuEnd, h4, gpuEnd, h5, rfl⟩ :=
    encode?_eq_some_iff.mp h
  simp only [List.length_append, d.uuid.length_eq, length_nameField,
    IntField.length_of_encode? h1, IntField.length_of_encode? h2, IntField.length_of_encode? h3,
    IntField.length_of_encode? h4, IntField.length_of_encode? h5]
  rfl

/-- The descriptor of seven fields that follow one another. -/
theorem ofBytes?_append {uuid : Uuid} {name traceError cpuStart gpuStart cpuEnd gpuEnd : Bytes}
    (h0 : name.length = 239) (h1 : traceError.length = 1) (h2 : cpuStart.length = 8)
    (h3 : gpuStart.length = 8) (h4 : cpuEnd.length = 8) (h5 : gpuEnd.length = 8) :
    ofBytes? (uuid.bytes ++ (name ++ (traceError ++ (cpuStart ++ (gpuStart ++
      (cpuEnd ++ gpuEnd)))))) = some {
        uuid := uuid
        name := fieldName name
        traceError := IntField.u8.decode traceError
        cpuStart := IntField.i64.decode cpuStart
        gpuStart := IntField.i64.decode gpuStart
        cpuEnd := IntField.i64.decode cpuEnd
        gpuEnd := IntField.i64.decode gpuEnd } := by
  have hu : uuid.bytes.length = 16 := uuid.length_eq
  have hlen : width ≤ (uuid.bytes ++ (name ++ (traceError ++ (cpuStart ++ (gpuStart ++
      (cpuEnd ++ gpuEnd)))))).length := by
    simp only [List.length_append, hu, h0, h1, h2, h3, h4, h5]
    decide
  rw [ofBytes?, dif_pos hlen]
  simp only [nameCapacity, List.take_left' uuid.length_eq, slice_append_of_le hu,
    slice_zero_append h0, slice_append_of_le h0, slice_zero_append h1, slice_append_of_le h1,
    slice_zero_append h2, slice_append_of_le h2, slice_zero_append h3, slice_append_of_le h3,
    slice_zero_append h4, slice_append_of_le h4, slice_zero_self h5, Nat.reduceLeDiff,
    Nat.reduceSub, Nat.le_refl]

/-- **A descriptor is read back from its bytes**, its name as the field kept it. -/
theorem ofBytes?_of_encode? (h : d.encode? = some bs) : ofBytes? bs = some d.stored := by
  obtain ⟨traceError, h1, cpuStart, h2, gpuStart, h3, cpuEnd, h4, gpuEnd, h5, rfl⟩ :=
    encode?_eq_some_iff.mp h
  rw [ofBytes?_append (length_nameField d.name) (IntField.length_of_encode? h1)
    (IntField.length_of_encode? h2) (IntField.length_of_encode? h3)
    (IntField.length_of_encode? h4) (IntField.length_of_encode? h5), fieldName_nameField,
    IntField.decode_of_encode? h1, IntField.decode_of_encode? h2, IntField.decode_of_encode? h3,
    IntField.decode_of_encode? h4, IntField.decode_of_encode? h5]
  rfl

/-- As many bytes as a descriptor has are always read. -/
theorem exists_ofBytes? (h : width ≤ bs.length) : ∃ d, ofBytes? bs = some d := by
  rw [ofBytes?, dif_pos h]
  exact ⟨_, rfl⟩

/-- A name that fits into its field and has no NUL is stored as it is. -/
theorem stored_eq_self (hnul : '\x00' ∉ d.name.toList)
    (hfit : Utf8.size d.name ≤ nameCapacity - 1) : d.stored = d := by
  have hall : d.name.toList.takeWhile (· != '\x00') = d.name.toList := by
    rw [List.takeWhile_eq_self_iff]
    intro c hc
    exact bne_iff_ne.mpr fun h => hnul (h ▸ hc)
  rw [stored, storedName_eq_self hfit, beforeNul, hall, String.ofList_toList]

end Device

/-! ### Captures -/

/-- The track that is left after writing. -/
def Track.stored (t : Track) : Track := { t with device := t.device.stored }

@[simp] theorem Track.records_stored (t : Track) : t.stored.records = t.records := by
  rw [stored]

@[simp] theorem Track.device_stored (t : Track) : t.stored.device = t.device.stored := by
  rw [stored]

/-- The capture that is left after writing: all as it was, but for the names of the devices. -/
def Capture.stored (c : Capture) : Capture := ⟨c.tracks.map Track.stored⟩

theorem Capture.devices_stored (c : Capture) : c.stored.devices = c.devices.map Device.stored := by
  simp only [devices, stored, List.map_map, Function.comp_def, Track.device_stored]

theorem Capture.stored_eq_self {c : Capture} (h : ∀ d ∈ c.devices, '\x00' ∉ d.name.toList ∧
    Utf8.size d.name ≤ Device.nameCapacity - 1) : c.stored = c := by
  have htracks : c.tracks.map Track.stored = c.tracks.map id := by
    refine List.map_congr_left fun t ht => ?_
    obtain ⟨hnul, hfit⟩ := h t.device (List.mem_map_of_mem ht)
    rw [Track.stored, Device.stored_eq_self hnul hfit]
    rfl
  rw [stored, htracks, List.map_id]

end SwitchTrace
