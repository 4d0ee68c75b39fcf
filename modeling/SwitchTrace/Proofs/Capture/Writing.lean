import SwitchTrace.Proofs.Capture.Reading
import SwitchTrace.Proofs.Steps

/-!
# Captures that are written, and read again

What is written of a capture is an image: its elements are the bytes of the descriptors and of the
records, as long as this format makes them. Reading it back therefore comes down to reading back
each element, and only names can have lost something.

## Main definitions

* `ArrayFrame.Writes`, `Capture.Image.Writes` — elements that begin with the bytes of values.
* `Capture.Image.Current` — elements of the lengths of this format.

## Main results

* `writeArray?_eq_some_iff`, `Capture.encode?_eq_some_iff_exists_image` — what is written.
* `Capture.Image.Writes.holds_stored` — it is read as what is left.
* `Capture.isSome_encode?_of_encodable` — captures whose numbers fit are written.
* `Capture.decode_eq_stored_of_encode?` — the round trip.
-/

namespace SwitchTrace

/-! ### Framed arrays -/

/-- A header is written exactly if both numbers fit, as their low bytes. -/
theorem ArrayHeader.encode?_natCast_eq_some_iff {count size : Nat} {bs : Bytes} :
    ArrayHeader.encode? ⟨count, size⟩ = some bs ↔
      IntField.i32.Holds count ∧ IntField.i32.Holds size ∧
        LittleEndian.ofNat 4 count ++ LittleEndian.ofNat 4 size = bs := by
  simp only [encode?, Option.bind_eq_bind, Option.bind_eq_some_iff, Option.pure_def,
    Option.some.injEq]
  constructor
  · rintro ⟨first, hfirst, second, hsecond, rfl⟩
    have hcount := IntField.isSome_encode?_iff.mp (Option.isSome_of_eq_some hfirst)
    have hsize := IntField.isSome_encode?_iff.mp (Option.isSome_of_eq_some hsecond)
    rw [IntField.encode?_natCast hcount, Option.some.injEq] at hfirst
    rw [IntField.encode?_natCast hsize, Option.some.injEq] at hsecond
    subst hfirst hsecond
    exact ⟨hcount, hsize, rfl⟩
  · rintro ⟨hcount, hsize, rfl⟩
    exact ⟨_, IntField.encode?_natCast hcount, _, IntField.encode?_natCast hsize, rfl⟩

section Arrays

variable {α : Type} {width stride : Nat} {encode? : α → Option Bytes} {as : List α} {bs : Bytes}

/-- The elements of the array begin with the bytes of the values of the list, in the same order. -/
def ArrayFrame.Writes (f : ArrayFrame width) (encode? : α → Option Bytes) (as : List α) : Prop :=
  List.Forall₂ (fun e a => encode? a = some (e.take width)) f.elements as

/-- The elements of the array begin with the bytes of the records of the track. -/
def ArrayFrame.WritesRecords (f : ArrayFrame Record.width) (t : Track) : Prop :=
  f.Writes Record.encode? t.records

/-- **A framed array is written as a frame** whose elements are the bytes of the values, if these
all have the length that the header says. -/
theorem exists_frame_of_writeArray? (hwidth : width ≤ stride)
    (hlength : ∀ a ∈ as, ∀ e, encode? a = some e → e.length = stride)
    (h : writeArray? stride encode? as = some bs) :
    ∃ f : ArrayFrame width, f.bytes = bs ∧ f.stride = stride ∧
      List.Forall₂ (fun e a => encode? a = some e) f.elements as := by
  simp only [writeArray?, Option.bind_eq_bind, Option.bind_eq_some_iff, Option.pure_def,
    Option.some.injEq] at h
  obtain ⟨header, hheader, elements, helements, rfl⟩ := h
  obtain ⟨hcount, hsize, rfl⟩ := ArrayHeader.encode?_natCast_eq_some_iff.mp hheader
  rw [mapM_eq_some_iff] at helements
  rw [helements.length_eq] at hcount
  refine ⟨⟨stride, elements, hwidth, ?_, hsize, hcount⟩, ?_, rfl, helements.flip⟩
  · intro e he
    obtain ⟨a, ha, hwrite⟩ := exists_of_mem_forall₂ helements e he
    exact hlength a ha e hwrite
  · rw [helements.length_eq]
    rfl

/-- A frame whose elements are the bytes of the values is written. -/
theorem ArrayFrame.writeArray?_of_forall₂ {f : ArrayFrame width}
    (h : List.Forall₂ (fun e a => encode? a = some e) f.elements as) :
    writeArray? f.stride encode? as = some f.bytes := by
  have hcount : as.length = f.count := h.length_eq.symm
  have hheader : ArrayHeader.encode? ⟨as.length, f.stride⟩ = some f.header :=
    ArrayHeader.encode?_natCast_eq_some_iff.mpr
      ⟨hcount ▸ f.count_holds, f.stride_holds, by rw [hcount]; rfl⟩
  rw [writeArray?, hheader, mapM_eq_some_iff.mpr h.flip]
  rfl

/-- **The arrays that are written with elements of one length** are the frames of that length whose
elements begin with the bytes of the values. -/
theorem writeArray?_eq_some_iff (hlength : ∀ a e, encode? a = some e → e.length = width) :
    writeArray? width encode? as = some bs ↔
      ∃ f : ArrayFrame width, f.bytes = bs ∧ f.stride = width ∧ f.Writes encode? as := by
  constructor
  · intro h
    obtain ⟨f, hbytes, hstride, helements⟩ := exists_frame_of_writeArray? (Nat.le_refl width)
      (fun a _ => hlength a) h
    refine ⟨f, hbytes, hstride, helements.imp fun e a hwrite => ?_⟩
    rw [List.take_of_length_le (Nat.le_of_eq (hlength a e hwrite))]
    exact hwrite
  · rintro ⟨f, rfl, hstride, hwrites⟩
    have hwhole : ∀ e ∈ f.elements, e.take width = e := fun e he =>
      List.take_of_length_le (Nat.le_of_eq ((f.length_eq e he).trans hstride))
    have helements : List.Forall₂ (fun e a => encode? a = some e) f.elements as :=
      ((List.forall₂_and_left _ _).mpr ⟨hwhole, hwrites⟩).imp fun e a h => by
        have hwrite : encode? a = some (e.take width) := h.2
        rwa [h.1] at hwrite
    have hwrite := ArrayFrame.writeArray?_of_forall₂ helements
    rwa [hstride] at hwrite

/-- Elements that are read back one by one are read back from the array. -/
theorem ArrayFrame.Writes.lists {f : ArrayFrame width} {read? : Bytes → Option α}
    {stored : α → α} (h : f.Writes encode? as)
    (hread : ∀ a e, encode? a = some e → read? e = some (stored a)) :
    f.Lists read? (as.map stored) := by
  rw [Lists, List.forall₂_map_right_iff]
  exact h.imp fun e a hwrite => hread a _ hwrite

theorem isSome_writeArray? (hcount : IntField.i32.Holds as.length)
    (hstride : IntField.i32.Holds stride) (h : ∀ a ∈ as, (encode? a).isSome = true) :
    (writeArray? stride encode? as).isSome = true := by
  have hheader : ArrayHeader.encode? ⟨as.length, stride⟩ = some _ :=
    ArrayHeader.encode?_natCast_eq_some_iff.mpr ⟨hcount, hstride, rfl⟩
  obtain ⟨elements, helements⟩ := Option.isSome_iff_exists.mp (isSome_mapM_of_forall h)
  rw [writeArray?, hheader, helements]
  rfl

end Arrays

/-- Arrays each of which is a frame that fits its track are a list of frames that fit the
tracks. -/
theorem exists_frames_of_forall₂ {width : Nat} {τ : Type} {fits : ArrayFrame width → τ → Prop}
    {ts : List τ} {arrays : List Bytes}
    (h : List.Forall₂ (fun t a => ∃ f : ArrayFrame width, f.bytes = a ∧ fits f t) ts arrays) :
    ∃ frames : List (ArrayFrame width), frames.flatMap ArrayFrame.bytes = arrays.flatten ∧
      List.Forall₂ fits frames ts := by
  induction h with
  | nil => exact ⟨[], rfl, .nil⟩
  | cons hf _ ih =>
    obtain ⟨f, rfl, hfits⟩ := hf
    obtain ⟨fs, hbytes, hfs⟩ := ih
    refine ⟨f :: fs, ?_, .cons hfits hfs⟩
    rw [List.flatMap_cons, hbytes, List.flatten_cons]

/-! ### Captures -/

namespace Capture

variable {c : Capture} {bs : Bytes}

namespace Image

variable {image : Image}

/-- The elements of the arrays begin with the bytes of the descriptors and of the records of each
device. -/
structure Writes (image : Image) (c : Capture) : Prop where
  devices : image.devices.Writes Device.encode? c.devices
  records : List.Forall₂ ArrayFrame.WritesRecords image.records c.tracks

/-- The elements of all arrays have the lengths of this format. -/
structure Current (image : Image) : Prop where
  devices : image.devices.stride = Device.width
  records : ∀ f ∈ image.records, f.stride = Record.width

/-- **An image that begins with the bytes of the elements** has what is left of the capture as its
content, whatever follows in each element. -/
theorem Writes.holds_stored (h : image.Writes c) : image.Holds c.stored := by
  refine ⟨?_, ?_⟩
  · rw [devices_stored]
    exact h.devices.lists fun _ _ => Device.ofBytes?_of_encode?
  · rw [stored, List.forall₂_map_right_iff]
    refine h.records.imp fun f t hwrites => ?_
    have hlists : f.Lists Record.ofBytes? (t.records.map id) :=
      hwrites.lists fun _ _ => Record.ofBytes?_of_encode?
    rwa [List.map_id, ← t.records_stored] at hlists

end Image

theorem encode?_eq_some_iff : c.encode? = some bs ↔
    ∃ devices, writeArray? Device.width Device.encode? c.devices = some devices ∧
    ∃ arrays, List.Forall₂ (fun (t : Track) a =>
      writeArray? Record.width Record.encode? t.records = some a) c.tracks arrays ∧
        magic ++ (devices ++ arrays.flatten) = bs := by
  simp only [encode?, Option.bind_eq_bind, Option.bind_eq_some_iff, Option.pure_def,
    Option.some.injEq, mapM_eq_some_iff]

/-- **What is written of a capture** are the images that begin with the bytes of its elements, of
the lengths of this format. -/
theorem encode?_eq_some_iff_exists_image : c.encode? = some bs ↔
    ∃ image : Image, image.bytes = bs ∧ image.Current ∧ image.Writes c := by
  rw [encode?_eq_some_iff]
  constructor
  · rintro ⟨devices, hdevices, arrays, harrays, rfl⟩
    obtain ⟨f, rfl, hstride, hwrites⟩ :=
      (writeArray?_eq_some_iff fun _ _ => Device.length_of_encode?).mp hdevices
    obtain ⟨frames, hbytes, hframes⟩ := exists_frames_of_forall₂ (harrays.imp fun t a h =>
      (writeArray?_eq_some_iff fun _ _ => Record.length_of_encode?).mp h)
    have hlength : frames.length = f.count := by
      rw [hframes.length_eq, ArrayFrame.count, hwrites.length_eq, Capture.devices, List.length_map]
    have hrecords : List.Forall₂ ArrayFrame.WritesRecords frames c.tracks :=
      hframes.imp fun _ _ h => h.2
    refine ⟨⟨f, frames, hlength⟩, ?_, ⟨hstride, fun f hf => ?_⟩, hwrites, hrecords⟩
    · rw [Image.bytes, fileStart, hbytes]
    · obtain ⟨t, -, hstride, -⟩ := exists_of_mem_forall₂ hframes.flip f hf
      exact hstride
  · rintro ⟨image, rfl, hcurrent, hwrites⟩
    refine ⟨_, (writeArray?_eq_some_iff fun _ _ => Device.length_of_encode?).mpr
      ⟨_, rfl, hcurrent.devices, hwrites.devices⟩, image.records.map ArrayFrame.bytes, ?_, ?_⟩
    · rw [List.forall₂_map_right_iff]
      have hframes := (List.forall₂_and_left _ _).mpr ⟨hcurrent.records, hwrites.records⟩
      exact (hframes.imp fun f t h =>
        (writeArray?_eq_some_iff fun _ _ => Record.length_of_encode?).mpr ⟨f, rfl, h⟩).flip
    · rw [Image.bytes, fileStart, List.flatMap_def]

/-- **A capture is written as an image**, with elements of the lengths of this format. Its content
is what is left of the capture. -/
theorem exists_image_of_encode? (h : c.encode? = some bs) :
    ∃ image : Image, image.bytes = bs ∧ image.devices.stride = Device.width ∧
      (∀ f ∈ image.records, f.stride = Record.width) ∧ image.Holds c.stored := by
  obtain ⟨image, hbytes, hcurrent, hwrites⟩ := encode?_eq_some_iff_exists_image.mp h
  exact ⟨image, hbytes, hcurrent.devices, hcurrent.records, hwrites.holds_stored⟩

instance (c : Capture) : Decidable c.Encodable :=
  inferInstanceAs (Decidable ((∀ t ∈ c.tracks, t.device.Encodable ∧ (∀ r ∈ t.records, r.Encodable) ∧
    IntField.i32.Holds t.records.length) ∧ IntField.i32.Holds c.tracks.length))

/-- A capture whose numbers fit is written. -/
theorem isSome_encode?_of_encodable (h : c.Encodable) : c.encode?.isSome = true := by
  obtain ⟨htracks, hcount⟩ := h
  have hdevices : (writeArray? Device.width Device.encode? c.devices).isSome = true := by
    refine isSome_writeArray? ?_ (by decide) fun d hd => ?_
    · rw [devices, List.length_map]
      exact hcount
    · obtain ⟨t, ht, rfl⟩ := List.mem_map.mp hd
      exact Device.isSome_encode?_iff.mpr (htracks t ht).1
  have hrecords : (c.tracks.mapM fun t =>
      writeArray? Record.width Record.encode? t.records).isSome = true := by
    refine isSome_mapM_of_forall fun t ht => isSome_writeArray? (htracks t ht).2.2 (by decide) ?_
    exact fun r hr => Record.isSome_encode?_iff.mpr ((htracks t ht).2.1 r hr)
  obtain ⟨first, hfirst⟩ := Option.isSome_iff_exists.mp hdevices
  obtain ⟨rest, hrest⟩ := Option.isSome_iff_exists.mp hrecords
  rw [encode?, hfirst, hrest]
  rfl

/-- The counts of an image fit into their fields, and so a capture fits whose elements do. -/
theorem Image.encodable {image : Image} {descriptor : Bytes → Device → Prop}
    {record : Bytes → Record → Prop}
    (hdevices : List.Forall₂ descriptor image.devices.elements c.devices)
    (hrecords : List.Forall₂ (fun (f : ArrayFrame Record.width) (t : Track) =>
      List.Forall₂ record f.elements t.records) image.records c.tracks)
    (hdescriptor : ∀ e d, descriptor e d → d.Encodable)
    (hrecord : ∀ e r, record e r → r.Encodable) : c.Encodable := by
  refine ⟨fun t ht => ?_, ?_⟩
  · obtain ⟨e, -, he⟩ := exists_of_mem_forall₂ hdevices t.device (List.mem_map_of_mem ht)
    obtain ⟨f, -, hf⟩ := exists_of_mem_forall₂ hrecords t ht
    refine ⟨hdescriptor e t.device he, fun r hr => ?_, hf.length_eq ▸ f.count_holds⟩
    obtain ⟨e, -, he⟩ := exists_of_mem_forall₂ hf r hr
    exact hrecord e r he
  · have hcount : image.devices.count = c.tracks.length := by
      rw [ArrayFrame.count, hdevices.length_eq, Capture.devices, List.length_map]
    exact hcount ▸ image.devices.count_holds

theorem encodable_of_encode? (h : c.encode? = some bs) : c.Encodable := by
  obtain ⟨image, -, -, hwrites⟩ := encode?_eq_some_iff_exists_image.mp h
  exact Image.encodable hwrites.devices hwrites.records
    (fun _ _ h => Device.isSome_encode?_iff.mp (Option.isSome_of_eq_some h))
    fun _ _ h => Record.isSome_encode?_iff.mp (Option.isSome_of_eq_some h)

theorem decode_bytes {image : Image} (h : image.Holds c) : decode image.bytes = .ok c := by
  have hread := decode_bytes_append h []
  rwa [List.append_nil] at hread

theorem decode_of_encode? (h : c.encode? = some bs) : decode bs = .ok c.stored := by
  obtain ⟨image, rfl, -, hwrites⟩ := encode?_eq_some_iff_exists_image.mp h
  exact decode_bytes hwrites.holds_stored

/-- **The round trip.** The bytes of a capture are read as the capture itself, with the same
devices and records in the same order, but for the names: of each name the longest start that fits
into its field is left, up to the first NUL. A capture all of whose names fit and have no NUL is
read as it was written. -/
theorem decode_eq_stored_of_encode? (h : c.encode? = some bs) :
    decode bs = .ok c.stored ∧
      ((∀ d ∈ c.devices, '\x00' ∉ d.name.toList ∧ Utf8.size d.name ≤ Device.nameCapacity - 1) →
        decode bs = .ok c) := by
  obtain ⟨image, rfl, -, -, hholds⟩ := exists_image_of_encode? h
  have hread := decode_bytes_append hholds []
  rw [List.append_nil] at hread
  refine ⟨hread, fun hnames => ?_⟩
  rw [hread, stored_eq_self hnames]

/-- A device of the given name with one record, with numbers at the ends of their ranges. -/
def single (name : String) : Capture :=
  ⟨[⟨⟨.zero, name, 255, -9223372036854775808, -1, 0, 9223372036854775807⟩,
    [⟨0, 65535, 4294967295, -9223372036854775808, 18446744073709551615⟩]⟩]⟩

/-- A name with a NUL is read back up to it, and a name without one is read back as a whole. -/
theorem decode_eq_stored_of_encode?_single :
    (∃ bs, (single "GPU é\x00x").encode? = some bs ∧ decode bs = .ok (single "GPU é")) ∧
      ∃ bs, (single "GPU é").encode? = some bs ∧ decode bs = .ok (single "GPU é") := by
  constructor
  · obtain ⟨bs, hbs⟩ := Option.isSome_iff_exists.mp
      (isSome_encode?_of_encodable (by decide : (single "GPU é\x00x").Encodable))
    have hstored : (single "GPU é\x00x").stored = single "GPU é" := by decide
    exact ⟨bs, hbs, hstored ▸ (decode_eq_stored_of_encode? hbs).1⟩
  · obtain ⟨bs, hbs⟩ := Option.isSome_iff_exists.mp
      (isSome_encode?_of_encodable (by decide : (single "GPU é").Encodable))
    exact ⟨bs, hbs, (decode_eq_stored_of_encode? hbs).2 (by decide)⟩

end Capture

end SwitchTrace
