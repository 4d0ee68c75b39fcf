import SwitchTrace.Proofs.Capture.Writing
import SwitchTrace.Proofs.Text.Segment

/-!
# Captures that are read, and written again

Whatever is read can be written: the integers come from fields of their widths, and the counts from
headers. Writing an element that was read gives back its known bytes, but for the name field of a
descriptor, which is made anew from the name. A name that is read has no NUL, but it may be longer
than the field that it was read from, because no NUL ends it there or because its ill-formed pieces
were replaced by longer characters. Then its end is cut off when it is written.

## Main definitions

* `Device.nameBytes`, `Device.Overfull` — the bytes of a field before its first NUL, and fields
  whose name no longer fits.
* `Device.fitted`, `Track.fitted`, `Capture.fitted` — with names cut to their fields.

## Main results

* `Record.encode?_of_ofBytes?`, `Device.encode?_of_ofBytes?` — elements that are read are written.
* `Device.lt_size_fieldName_iff` — the fields whose name no longer fits.
* `Capture.exists_encode?_of_decode` — captures that are read are written and read again.
-/

namespace SwitchTrace

/-- A field of a byte string is written as it is after it has been read. -/
theorem IntField.encode?_decode_slice (f : IntField) (k : Nat) {n : Nat} {raw : Bytes}
    (hf : 0 < f.width) (hk : k + f.width ≤ n) (hn : n ≤ raw.length) :
    f.encode? (f.decode (slice k f.width raw)) = some (slice k f.width raw) :=
  encode?_decode hf (length_slice (Nat.le_trans hk hn))

/-! ### Records -/

/-- **A record that is read is written as its bytes.** -/
theorem Record.encode?_of_ofBytes? {raw : Bytes} {r : Record} (h : ofBytes? raw = some r) :
    r.encode? = some (raw.take width) := by
  unfold ofBytes? at h
  split at h
  case isFalse => cases h
  case isTrue hlength =>
    obtain rfl := Option.some.inj h
    have hbytes : slice 0 2 raw ++ (slice 2 2 raw ++ (slice 4 4 raw ++ (slice 8 8 raw ++
        slice 16 8 raw))) = raw.take width := by
      rw [slice_append_slice 8 8 8, slice_append_slice 4 4 16, slice_append_slice 2 2 20,
        slice_append_slice 0 2 22]
      rfl
    rw [encode?_eq_some_iff]
    dsimp only
    exact ⟨_, IntField.u16.encode?_decode_slice 0 (by decide) (by decide) hlength,
      _, IntField.u16.encode?_decode_slice 2 (by decide) (by decide) hlength,
      _, IntField.u32.encode?_decode_slice 4 (by decide) (by decide) hlength,
      _, IntField.i64.encode?_decode_slice 8 (by decide) (by decide) hlength,
      _, IntField.u64.encode?_decode_slice 16 (by decide) (by decide) hlength, hbytes⟩

/-! ### Device descriptors -/

namespace Device

variable {raw field : Bytes} {d : Device} {name : String}

/-- The bytes of a name field before its first NUL. -/
def nameBytes (field : Bytes) : Bytes := field.takeWhile (· != 0)

/-- The name field of the bytes of a descriptor. -/
def nameSlice (raw : Bytes) : Bytes := slice 16 nameCapacity raw

theorem nameSlice_take_width (raw : Bytes) : nameSlice (raw.take width) = nameSlice raw := by
  rw [nameSlice, nameSlice, slice_take (by decide)]

theorem name_of_ofBytes? (h : ofBytes? raw = some d) : d.name = fieldName (nameSlice raw) := by
  unfold ofBytes? at h
  split at h
  case isFalse => cases h
  case isTrue =>
    cases h
    rfl

/-- **A descriptor that is read is written as its bytes**, but for the field of its name. -/
theorem encode?_of_ofBytes? (h : ofBytes? raw = some d) :
    d.encode? = some (raw.take Uuid.size ++ (nameField d.name ++ slice 255 33 raw)) := by
  unfold ofBytes? at h
  split at h
  case isFalse => cases h
  case isTrue hlength =>
    obtain rfl := Option.some.inj h
    have hnumbers : slice 255 1 raw ++ (slice 256 8 raw ++ (slice 264 8 raw ++ (slice 272 8 raw ++
        slice 280 8 raw))) = slice 255 33 raw := by
      rw [slice_append_slice 272 8 8, slice_append_slice 264 8 16, slice_append_slice 256 8 24,
        slice_append_slice 255 1 32]
    rw [encode?_eq_some_iff, ← hnumbers]
    dsimp only
    exact ⟨_, IntField.u8.encode?_decode_slice 255 (by decide) (by decide) hlength,
      _, IntField.i64.encode?_decode_slice 256 (by decide) (by decide) hlength,
      _, IntField.i64.encode?_decode_slice 264 (by decide) (by decide) hlength,
      _, IntField.i64.encode?_decode_slice 272 (by decide) (by decide) hlength,
      _, IntField.i64.encode?_decode_slice 280 (by decide) (by decide) hlength, rfl⟩

/-! ### Names -/

theorem nul_notMem_fieldName (field : Bytes) : '\x00' ∉ (fieldName field).toList :=
  Utf8.nul_notMem_decodeLossy fun h => absurd (List.mem_takeWhile_imp h) (by decide)

theorem storedName_eq_self_iff : storedName name = name ↔ Utf8.size name ≤ nameCapacity - 1 :=
  ⟨fun h => h ▸ size_storedName_le name, storedName_eq_self⟩

/-- The descriptor with its name cut to the field. -/
def fitted (d : Device) : Device := d.setName d.name

/-- Of a descriptor without a NUL in its name, only the end of a long name is lost. -/
theorem stored_eq_fitted (h : '\x00' ∉ d.name.toList) : d.stored = d.fitted := by
  have hall : (storedName d.name).toList.takeWhile (· != '\x00') = (storedName d.name).toList := by
    rw [List.takeWhile_eq_self_iff]
    intro c hc
    exact bne_iff_ne.mpr fun hnul => h (hnul ▸ (storedName_isPrefix d.name).subset hc)
  rw [stored, beforeNul, hall, String.ofList_toList]
  rfl

theorem fitted_eq_self_iff : d.fitted = d ↔ Utf8.size d.name ≤ nameCapacity - 1 := by
  rw [← storedName_eq_self_iff, fitted, setName]
  constructor
  · exact fun h => congrArg Device.name h
  · intro h
    rw [h]

/-- A field whose name no longer fits into it: no NUL ends the name, or its ill-formed pieces grow
by more bytes than the field has left. -/
def Overfull (field : Bytes) : Prop :=
  0 ∉ field ∨ nameCapacity - 1 - (nameBytes field).length < Utf8.growth (nameBytes field)

/-- **The fields whose name no longer fits.** -/
theorem lt_size_fieldName_iff (hlength : field.length = nameCapacity) :
    nameCapacity - 1 < Utf8.size (fieldName field) ↔ Overfull field := by
  have hsize : Utf8.size (fieldName field) =
      (nameBytes field).length + Utf8.growth (nameBytes field) := Utf8.size_decodeLossy _
  have hstart : nameBytes field <+: field := List.takeWhile_prefix _
  rw [hsize, Overfull]
  by_cases hnul : 0 ∈ field
  · -- A NUL leaves the name shorter than the field, so that only its growth can make it too long.
    have hlt : (nameBytes field).length < nameCapacity := by
      rw [← hlength]
      refine Nat.lt_of_le_of_ne hstart.length_le fun heq => ?_
      rw [← hstart.eq_of_length heq] at hnul
      exact absurd (List.mem_takeWhile_imp hnul) (by decide)
    simp only [hnul, not_true_eq_false, false_or]
    omega
  · -- Without a NUL the name is all of the field, and reading never makes it shorter.
    have hwhole : nameBytes field = field := List.takeWhile_eq_self_iff.mpr fun b hb =>
      bne_iff_ne.mpr fun h => hnul (h ▸ hb)
    rw [hwhole, hlength]
    simp only [hnul, not_false_eq_true, true_or, iff_true]
    exact Nat.lt_of_lt_of_le (by decide) (Nat.le_add_right _ _)

end Device

/-! ### Captures -/

/-- The track with the name of its device cut to the field. -/
def Track.fitted (t : Track) : Track := { t with device := t.device.fitted }

namespace Capture

variable {data : Bytes} {c : Capture} {image : Image}

/-- The capture with all names cut to their fields: the same devices and records in the same order,
and the same numbers. -/
def fitted (c : Capture) : Capture := ⟨c.tracks.map Track.fitted⟩

theorem stored_eq_fitted (h : ∀ d ∈ c.devices, '\x00' ∉ d.name.toList) : c.stored = c.fitted := by
  refine congrArg Capture.mk (List.map_congr_left fun t ht => ?_)
  rw [Track.stored, Track.fitted, Device.stored_eq_fitted (h t.device (List.mem_map_of_mem ht))]

theorem fitted_eq_self_iff :
    c.fitted = c ↔ ∀ d ∈ c.devices, Utf8.size d.name ≤ Device.nameCapacity - 1 := by
  have htrack (t : Track) : t.fitted = t ↔ t.device.fitted = t.device :=
    ⟨fun h => congrArg Track.device h, fun h => by rw [Track.fitted, h]⟩
  simp only [devices, List.forall_mem_map, ← Device.fitted_eq_self_iff, ← htrack]
  constructor
  · intro h t ht
    have hmap : c.tracks.map Track.fitted = c.tracks.map id :=
      (congrArg Capture.tracks h).trans (List.map_id _).symm
    exact List.map_inj_left.mp hmap t ht
  · intro h
    exact congrArg Capture.mk ((List.map_congr_left h).trans (List.map_id _))

/-- The names of the devices are those that the name fields hold. -/
theorem Image.Holds.name_mem_iff (h : image.Holds c) {name : String} :
    (∃ d ∈ c.devices, d.name = name) ↔
      ∃ e ∈ image.devices.elements, Device.fieldName (Device.nameSlice e) = name := by
  have hname : ∀ e d, Device.ofBytes? (e.take Device.width) = some d →
      d.name = Device.fieldName (Device.nameSlice e) := fun e d hd => by
    rw [Device.name_of_ofBytes? hd, Device.nameSlice_take_width]
  constructor
  · rintro ⟨d, hd, rfl⟩
    obtain ⟨e, he, hread⟩ := exists_of_mem_forall₂ h.devices d hd
    exact ⟨e, he, (hname e d hread).symm⟩
  · rintro ⟨e, he, rfl⟩
    obtain ⟨d, hd, hread⟩ := exists_of_mem_forall₂ h.devices.flip e he
    exact ⟨d, hd, hname e d hread⟩

/-- One of the names is too long exactly if one of the name fields is overfull. -/
theorem Image.Holds.exists_lt_size_iff (h : image.Holds c) :
    (∃ d ∈ c.devices, Device.nameCapacity - 1 < Utf8.size d.name) ↔
      ∃ e ∈ image.devices.elements, Device.Overfull (Device.nameSlice e) := by
  have hlength : ∀ e ∈ image.devices.elements,
      (Device.nameSlice e).length = Device.nameCapacity := fun e he => by
    have hwidth : Device.width ≤ e.length :=
      Nat.le_trans image.devices.width_le (Nat.le_of_eq (image.devices.length_eq e he).symm)
    exact length_slice (Nat.le_trans (by decide) hwidth)
  constructor
  · rintro ⟨d, hd, hlong⟩
    obtain ⟨e, he, hname⟩ := h.name_mem_iff.mp ⟨d, hd, rfl⟩
    rw [← hname] at hlong
    exact ⟨e, he, (Device.lt_size_fieldName_iff (hlength e he)).mp hlong⟩
  · rintro ⟨e, he, hover⟩
    obtain ⟨d, hd, hname⟩ := h.name_mem_iff.mpr ⟨e, he, rfl⟩
    have hlong := (Device.lt_size_fieldName_iff (hlength e he)).mpr hover
    rw [← hname] at hlong
    exact ⟨d, hd, hlong⟩

/-- **What an image holds can be written.** -/
theorem Image.Holds.encodable (h : image.Holds c) : c.Encodable :=
  Image.encodable h.devices h.records
    (fun _ _ hd => Device.isSome_encode?_iff.mp
      (Option.isSome_of_eq_some (Device.encode?_of_ofBytes? hd)))
    fun _ _ hr => Record.isSome_encode?_iff.mp
      (Option.isSome_of_eq_some (Record.encode?_of_ofBytes? hr))

theorem encodable_of_decode (h : decode data = .ok c) : c.Encodable := by
  obtain ⟨image, tail, rfl, hholds⟩ := exists_image_of_decode h
  exact hholds.encodable

theorem nul_notMem_of_decode (h : decode data = .ok c) :
    ∀ d ∈ c.devices, '\x00' ∉ d.name.toList := by
  obtain ⟨image, tail, rfl, hholds⟩ := exists_image_of_decode h
  intro d hd
  obtain ⟨e, -, hname⟩ := hholds.name_mem_iff.mp ⟨d, hd, rfl⟩
  rw [← hname]
  exact Device.nul_notMem_fieldName _

/-- **Captures that are read are written and read again.** Every capture that is read can be
written, and is then read with its names cut to their fields and all else as it was. So the same
capture is read exactly if all names fit; and they do not fit exactly if one of the name fields is
without a NUL or has ill-formed pieces that grow beyond it. -/
theorem exists_encode?_of_decode (h : decode data = .ok c) :
    ∃ bs, c.encode? = some bs ∧ decode bs = .ok c.fitted ∧
      (decode bs = decode data ↔
        ∀ d ∈ c.devices, Utf8.size d.name ≤ Device.nameCapacity - 1) ∧
      ∀ (image : Image) tail, data = image.bytes ++ tail →
        (decode bs ≠ decode data ↔
          ∃ e ∈ image.devices.elements, Device.Overfull (Device.nameSlice e)) := by
  obtain ⟨bs, hbs⟩ := Option.isSome_iff_exists.mp
    (isSome_encode?_of_encodable (encodable_of_decode h))
  have hread : decode bs = .ok c.fitted := by
    rw [decode_of_encode? hbs, stored_eq_fitted (nul_notMem_of_decode h)]
  have hsame : decode bs = decode data ↔
      ∀ d ∈ c.devices, Utf8.size d.name ≤ Device.nameCapacity - 1 := by
    rw [hread, h, Except.ok.injEq, fitted_eq_self_iff]
  refine ⟨bs, hbs, hread, hsame, fun image tail hdata => ?_⟩
  rw [hdata] at h
  rw [ne_eq, hsame, ← (holds_of_decode h).exists_lt_size_iff]
  simp only [not_forall, Nat.not_le, exists_prop]

/-- An image of one device without records. No NUL ends the name of the device. -/
def unterminated : Image where
  devices :=
    { stride := 288
      elements := [List.replicate 288 0x41]
      width_le := by decide
      length_eq := fun e he => by rw [List.mem_singleton.mp he, List.length_replicate]
      stride_holds := by decide
      count_holds := by decide }
  records := [
    { stride := 24
      elements := []
      width_le := by decide
      length_eq := by decide
      stride_holds := by decide
      count_holds := by decide }]
  length_eq := rfl

/-- A capture with a name that is not ended is read and written, and then read with another
name. -/
theorem exists_encode?_of_decode_unterminated : ∃ c bs, decode unterminated.bytes = .ok c ∧
    c.encode? = some bs ∧ decode bs ≠ decode unterminated.bytes := by
  obtain ⟨c, hc⟩ := unterminated.exists_holds
  obtain ⟨bs, hbs, -, -, hiff⟩ := exists_encode?_of_decode (decode_bytes hc)
  refine ⟨c, bs, decode_bytes hc, hbs, (hiff unterminated [] (List.append_nil _).symm).mpr ?_⟩
  exact ⟨_, List.mem_cons_self, .inl (by decide)⟩

end Capture

end SwitchTrace
