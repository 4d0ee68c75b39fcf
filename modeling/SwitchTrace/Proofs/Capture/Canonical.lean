import SwitchTrace.Proofs.Capture.Rewriting

/-!
# The canonical form of a capture

Reading and writing again makes bytes canonical: their elements have the lengths of this format,
nothing follows the last array, and every name field is the bytes of a text and then NULs only.
These are all the bytes that reading and writing leave as they are, because the integers of an
element and their bytes determine each other, and a canonical name field is made anew as it was.

## Main definitions

* `Device.CanonicalName` — a name field as a writer makes it.
* `Capture.Canonical` — bytes as a writer makes them.

## Main results

* `Device.nameField_fieldName` — a canonical name field is made anew from its name.
* `Capture.canonical_of_encode?`, `Capture.encode?_of_canonical` — writing makes bytes canonical,
  and reading them loses nothing.
* `Capture.encode?_eq_self_iff_canonical` — the bytes that are left as they are.
-/

namespace SwitchTrace

/-! ### Names -/

namespace Device

/-- A name field as a writer makes it: the well-formed bytes of a name without NULs, so many that a
NUL fits behind them, and then NULs only. -/
def CanonicalName (field : Bytes) : Prop :=
  ∃ known name, Utf8.decode known = .ok name ∧ known.length ≤ nameCapacity - 1 ∧ 0 ∉ known ∧
    field = padded nameCapacity known

/-- The field of a name without a NUL is canonical. -/
theorem canonicalName_nameField {name : String} (h : '\x00' ∉ name.toList) :
    CanonicalName (nameField name) := by
  refine ⟨Utf8.encode (storedName name), storedName name, Utf8.decode_eq_ok_iff.mpr rfl,
    size_storedName_le name, ?_, rfl⟩
  rw [Utf8.encode, Utf8.encodeChars, List.mem_flatMap]
  rintro ⟨c, hc, hnul⟩
  have hne : c ≠ '\x00' := fun heq => h (heq ▸ (storedName_isPrefix name).subset hc)
  exact Utf8.ne_zero_of_mem_encodeChar hne hnul rfl

/-- **A canonical name field is made anew from its name.** -/
theorem nameField_fieldName {field : Bytes} (h : CanonicalName field) :
    nameField (fieldName field) = field := by
  obtain ⟨_, name, hdecode, hfit, hnul, rfl⟩ := h
  obtain rfl := Utf8.decode_eq_ok_iff.mp hdecode
  have hbytes : nameBytes (padded nameCapacity (Utf8.encode name)) = Utf8.encode name := by
    have hall : ∀ b ∈ Utf8.encode name, (b != 0) = true := fun b hb =>
      bne_iff_ne.mpr fun h => hnul (h ▸ hb)
    obtain ⟨k, hk⟩ : ∃ k, nameCapacity - (Utf8.encode name).length = k + 1 :=
      ⟨nameCapacity - 1 - (Utf8.encode name).length, by rw [nameCapacity] at hfit ⊢; omega⟩
    rw [nameBytes, padded, hk, List.replicate_succ, List.takeWhile_append_of_pos hall]
    exact List.append_nil _
  have hname : fieldName (padded nameCapacity (Utf8.encode name)) = name := by
    rw [fieldName, ← nameBytes, hbytes, Utf8.encode, Utf8.decodeLossy_encodeChars,
      String.ofList_toList]
  rw [hname, nameField, storedName_eq_self_iff.mpr hfit]

/-- A descriptor that is read from bytes with a canonical name field is written as these bytes. -/
theorem encode?_of_canonicalName {raw : Bytes} {d : Device} (h : ofBytes? raw = some d)
    (hname : CanonicalName (nameSlice raw)) : d.encode? = some (raw.take width) := by
  have hbytes : raw.take Uuid.size ++ (slice 16 239 raw ++ slice 255 33 raw) = raw.take width := by
    rw [slice_append_slice 16 239 33]
    exact slice_append_slice 0 16 272 raw
  rw [encode?_of_ofBytes? h, name_of_ofBytes? h, nameField_fieldName hname]
  exact congrArg some hbytes

/-- The name field of the bytes that are written of a descriptor. -/
theorem nameSlice_of_encode? {d : Device} {bs : Bytes} (h : d.encode? = some bs) :
    nameSlice bs = nameField d.name := by
  obtain ⟨_, -, _, -, _, -, _, -, _, -, rfl⟩ := encode?_eq_some_iff.mp h
  rw [nameSlice, slice_append_of_le d.uuid.length_eq (by decide)]
  exact slice_zero_append (length_nameField d.name)

end Device

/-! ### Captures -/

namespace Capture

variable {data bs : Bytes} {c : Capture}

/-- An image as a writer of this format makes it. -/
structure Image.Canonical (image : Image) : Prop extends image.Current where
  names : ∀ e ∈ image.devices.elements, Device.CanonicalName (Device.nameSlice e)

/-- Bytes as a writer of this format makes them: a canonical image, and nothing behind it. -/
def Canonical (data : Bytes) : Prop := ∃ image : Image, data = image.bytes ∧ image.Canonical

/-- **Writing makes bytes canonical**, if no name has a NUL. -/
theorem canonical_of_encode? (hnul : ∀ d ∈ c.devices, '\x00' ∉ d.name.toList)
    (h : c.encode? = some bs) : Canonical bs := by
  obtain ⟨image, rfl, hcurrent, hwrites⟩ := encode?_eq_some_iff_exists_image.mp h
  refine ⟨image, rfl, hcurrent, fun e he => ?_⟩
  obtain ⟨d, hd, hwrite⟩ := exists_of_mem_forall₂ hwrites.devices.flip e he
  have hname : Device.nameSlice e = Device.nameField d.name := by
    rw [← Device.nameSlice_of_encode? hwrite, Device.nameSlice_take_width]
  rw [hname]
  exact Device.canonicalName_nameField (hnul d hd)

/-- **Canonical bytes are written as they are** after they have been read. -/
theorem encode?_of_canonical (hdata : Canonical data) (h : decode data = .ok c) :
    c.encode? = some data := by
  obtain ⟨image, rfl, hcanonical⟩ := hdata
  rw [← List.append_nil image.bytes] at h
  have hholds := holds_of_decode h
  refine encode?_eq_some_iff_exists_image.mpr ⟨image, rfl, hcanonical.toCurrent, ?_, ?_⟩
  · have hdevices := (List.forall₂_and_left _ _).mpr ⟨hcanonical.names, hholds.devices⟩
    refine hdevices.imp fun e d h => ?_
    have hname : Device.CanonicalName (Device.nameSlice (e.take Device.width)) := by
      rw [Device.nameSlice_take_width]
      exact h.1
    rw [Device.encode?_of_canonicalName h.2 hname, List.take_take, Nat.min_self]
  · refine hholds.records.imp fun f t hlists => hlists.imp fun e r hr => ?_
    rw [Record.encode?_of_ofBytes? hr, List.take_take, Nat.min_self]

/-- **The canonical form.** Bytes that are read are left as they are by reading and writing exactly
if they are canonical. What is written of them is always canonical, so that it is left as it is by
reading and writing it again. -/
theorem encode?_eq_self_iff_canonical (h : decode data = .ok c) :
    ∃ bs, c.encode? = some bs ∧ (bs = data ↔ Canonical data) ∧ Canonical bs ∧
      ∃ c', decode bs = .ok c' ∧ c'.encode? = some bs := by
  obtain ⟨bs, hbs⟩ := Option.isSome_iff_exists.mp
    (isSome_encode?_of_encodable (encodable_of_decode h))
  have hcanonical : Canonical bs := canonical_of_encode? (nul_notMem_of_decode h) hbs
  have hread : decode bs = .ok c.stored := decode_of_encode? hbs
  refine ⟨bs, hbs, ⟨?_, fun hdata => ?_⟩, hcanonical, _, hread,
    encode?_of_canonical hcanonical hread⟩
  · rintro rfl
    exact hcanonical
  · -- Writing is a function, and the canonical bytes are what it makes of the capture.
    have hwrite := encode?_of_canonical hdata h
    rw [hbs] at hwrite
    exact Option.some.inj hwrite

/-- The bytes of a capture are left as they are by reading and writing, but not with a byte behind
them. -/
theorem encode?_eq_self_iff_canonical_single : ∃ data c, decode data = .ok c ∧
    c.encode? = some data ∧ decode (data ++ [0x2A]) = .ok c ∧ ¬ Canonical (data ++ [0x2A]) := by
  obtain ⟨data, hdata⟩ := Option.isSome_iff_exists.mp
    (isSome_encode?_of_encodable (by decide : (single "GPU").Encodable))
  have hread := decode_of_encode? hdata
  obtain ⟨image, rfl, -, hwrites⟩ := encode?_eq_some_iff_exists_image.mp hdata
  have hlong : decode (image.bytes ++ [0x2A]) = .ok (single "GPU").stored :=
    decode_bytes_append hwrites.holds_stored [0x2A]
  obtain ⟨bs, hbs, hself, -⟩ := encode?_eq_self_iff_canonical hread
  obtain ⟨bs', hbs', hself', -⟩ := encode?_eq_self_iff_canonical hlong
  have hcanonical : Canonical image.bytes :=
    canonical_of_encode? (by decide : ∀ d ∈ (single "GPU").devices, '\x00' ∉ d.name.toList) hdata
  obtain rfl := hself.mpr hcanonical
  refine ⟨_, _, hread, hbs, hlong, fun hlongCanonical => ?_⟩
  rw [hself'.mpr hlongCanonical, hbs, Option.some.injEq] at hbs'
  exact absurd (congrArg List.length hbs') (by simp)

end Capture

end SwitchTrace
