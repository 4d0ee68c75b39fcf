import SwitchTrace.Proofs.Capture.Writing

/-!
# Captures of newer writers

A newer format may only append to the elements of an array. What it writes of a capture has the
same elements in the same order, each with some bytes behind those that this format knows, and the
headers say how long the elements are; every array may have elements of another length. This format
reads of every element the bytes that it knows, so that it reads the same capture.

## Main definitions

* `Appended`, `NewerArray`, `NewerCapture` — elements, arrays and captures with appended bytes.
* `NewerCapture.capture` — the capture that this format knows.
* `NewerCapture.encode?` — the bytes that the newer writer makes.

## Main results

* `NewerCapture.exists_image_of_encode?` — these bytes are an image whose elements begin with the
  bytes of the capture's elements.
* `NewerCapture.decode_encode?_append` — they are read as the bytes of the capture are.
-/

namespace SwitchTrace

/-! ### Elements and arrays -/

/-- A value with the bytes that a newer format appends to it. -/
structure Appended (α : Type) where
  value : α
  extra : Bytes

/-- The bytes of a value, and behind them the appended ones. -/
def Appended.encode? {α : Type} (write? : α → Option Bytes) (e : Appended α) : Option Bytes :=
  (write? e.value).map (· ++ e.extra)

/-- An array of a newer format. Its elements have one length, their stride, of which this format
knows `width` bytes; the others are appended to each element. -/
structure NewerArray (width : Nat) (α : Type) where
  stride : Nat
  elements : List (Appended α)
  width_le : width ≤ stride
  stride_holds : IntField.i32.Holds stride
  length_eq : ∀ e ∈ elements, width + e.extra.length = stride

namespace NewerArray

variable {width : Nat} {α : Type} (a : NewerArray width α)

/-- The values that this format knows. -/
def values : List α := a.elements.map Appended.value

/-- The bytes of the array, with the stride in its header. -/
def encode? (write? : α → Option Bytes) : Option Bytes :=
  writeArray? a.stride (Appended.encode? write?) a.elements

variable {write? : α → Option Bytes} {bs : Bytes}

/-- **An array of a newer format is written as a frame** whose elements begin with the bytes of the
values. -/
theorem exists_frame_of_encode? (hlength : ∀ v e, write? v = some e → e.length = width)
    (h : a.encode? write? = some bs) :
    ∃ f : ArrayFrame width, f.bytes = bs ∧ f.Writes write? a.values := by
  have hsplit : ∀ (v : Appended α) e, v.encode? write? = some e →
      ∃ known, write? v.value = some known ∧ known ++ v.extra = e := fun v e hv =>
    Option.map_eq_some_iff.mp hv
  have hstride : ∀ v ∈ a.elements, ∀ e, v.encode? write? = some e → e.length = a.stride := by
    intro v hv e he
    obtain ⟨known, hknown, rfl⟩ := hsplit v e he
    rw [List.length_append, hlength v.value known hknown, a.length_eq v hv]
  obtain ⟨f, hbytes, -, helements⟩ := exists_frame_of_writeArray? a.width_le hstride h
  refine ⟨f, hbytes, ?_⟩
  rw [ArrayFrame.Writes, values, List.forall₂_map_right_iff]
  refine helements.imp fun e v he => ?_
  obtain ⟨known, hknown, rfl⟩ := hsplit v e he
  rwa [List.take_left' (hlength v.value known hknown)]

theorem isSome_encode? (hcount : IntField.i32.Holds a.values.length)
    (h : ∀ v ∈ a.values, (write? v).isSome = true) : (a.encode? write?).isSome = true := by
  rw [values, List.length_map] at hcount
  refine isSome_writeArray? hcount a.stride_holds fun e he => ?_
  rw [Appended.encode?, Option.isSome_map]
  exact h e.value (List.mem_map_of_mem he)

end NewerArray

/-! ### Captures -/

/-- A device and its records, with the bytes that a newer format appends to each record. -/
structure NewerTrack where
  device : Device
  records : NewerArray Record.width Record

/-- The track that this format knows. -/
def NewerTrack.track (t : NewerTrack) : Track := ⟨t.device, t.records.values⟩

/-- A capture of a newer format: bytes are appended to each descriptor and to each record, and the
array of descriptors and every array of records has a stride of its own. -/
structure NewerCapture where
  tracks : NewerArray Device.width NewerTrack

namespace NewerCapture

variable (n : NewerCapture)

/-- The capture that this format knows. -/
def capture : Capture := ⟨n.tracks.values.map NewerTrack.track⟩

/-- The bytes that a writer of the newer format makes. -/
def encode? : Option Bytes := do
  let devices ← n.tracks.encode? fun t => t.device.encode?
  let records ← n.tracks.values.mapM fun t => t.records.encode? Record.encode?
  return Capture.magic ++ (devices ++ records.flatten)

variable {n} {bs : Bytes}

theorem encode?_eq_some_iff : n.encode? = some bs ↔
    ∃ devices, n.tracks.encode? (fun t => t.device.encode?) = some devices ∧
    ∃ arrays, List.Forall₂ (fun (t : NewerTrack) a => t.records.encode? Record.encode? = some a)
      n.tracks.values arrays ∧ Capture.magic ++ (devices ++ arrays.flatten) = bs := by
  simp only [encode?, Option.bind_eq_bind, Option.bind_eq_some_iff, Option.pure_def,
    Option.some.injEq, mapM_eq_some_iff]

/-- **A newer writer makes an image** whose elements begin with the bytes of those that this format
knows. -/
theorem exists_image_of_encode? (h : n.encode? = some bs) :
    ∃ image : Capture.Image, image.bytes = bs ∧ image.Writes n.capture := by
  obtain ⟨devices, hdevices, arrays, harrays, rfl⟩ := encode?_eq_some_iff.mp h
  obtain ⟨f, rfl, hwrites⟩ := n.tracks.exists_frame_of_encode?
    (fun _ _ => Device.length_of_encode?) hdevices
  obtain ⟨frames, hbytes, hframes⟩ := exists_frames_of_forall₂ (harrays.imp fun t _ ha =>
    t.records.exists_frame_of_encode? (fun _ _ => Record.length_of_encode?) ha)
  have hlength : frames.length = f.count := by
    rw [hframes.length_eq, ArrayFrame.count, hwrites.length_eq]
  refine ⟨⟨f, frames, hlength⟩, ?_, ?_, ?_⟩
  · rw [Capture.Image.bytes, Capture.fileStart, hbytes]
  · rw [Capture.devices, capture, List.map_map]
    exact List.forall₂_map_right_iff.mpr hwrites
  · exact List.forall₂_map_right_iff.mpr hframes

/-- What a newer format appends can be written with every capture that can. -/
theorem isSome_encode?_of_encodable (h : n.capture.Encodable) : n.encode?.isSome = true := by
  obtain ⟨htracks, hcount⟩ := h
  have htrack : ∀ t ∈ n.tracks.values, t.track.device.Encodable ∧
      (∀ r ∈ t.track.records, r.Encodable) ∧ IntField.i32.Holds t.track.records.length :=
    fun t ht => htracks t.track (List.mem_map_of_mem ht)
  have hdevices : (n.tracks.encode? fun t => t.device.encode?).isSome = true := by
    rw [capture, List.length_map] at hcount
    exact n.tracks.isSome_encode? hcount fun t ht => Device.isSome_encode?_iff.mpr (htrack t ht).1
  have hrecords : (n.tracks.values.mapM fun (t : NewerTrack) =>
      t.records.encode? Record.encode?).isSome = true := by
    refine isSome_mapM_of_forall fun t ht => t.records.isSome_encode? (htrack t ht).2.2 ?_
    exact fun r hr => Record.isSome_encode?_iff.mpr ((htrack t ht).2.1 r hr)
  obtain ⟨first, hfirst⟩ := Option.isSome_iff_exists.mp hdevices
  obtain ⟨rest, hrest⟩ := Option.isSome_iff_exists.mp hrecords
  rw [encode?, hfirst, hrest]
  rfl

/-- **Captures of newer writers are read.** For every capture that can be written and everything
that a newer format appends to its elements, the newer writer makes bytes, and these, whatever
follows them, are read as the bytes of the capture are. -/
theorem decode_encode?_append (c : Capture) (bs : Bytes) (h : c.encode? = some bs)
    (n : NewerCapture) (hn : n.capture = c) :
    ∃ wide, n.encode? = some wide ∧
      ∀ tail, Capture.decode (wide ++ tail) = Capture.decode bs := by
  subst hn
  obtain ⟨wide, hwide⟩ := Option.isSome_iff_exists.mp
    (isSome_encode?_of_encodable (Capture.encodable_of_encode? h))
  obtain ⟨image, rfl, hwrites⟩ := exists_image_of_encode? hwide
  refine ⟨_, hwide, fun tail => ?_⟩
  rw [Capture.decode_bytes_append hwrites.holds_stored, Capture.decode_of_encode? h]

/-- One device with a descriptor of two more bytes and a record of one more. -/
def single : NewerCapture where
  tracks :=
    { stride := 290
      elements := [⟨⟨⟨.zero, "GPU", 255, -9223372036854775808, -1, 0, 9223372036854775807⟩,
        { stride := 25
          elements := [⟨⟨0, 65535, 4294967295, -9223372036854775808, 18446744073709551615⟩, [0xFF]⟩]
          width_le := by decide
          stride_holds := by decide
          length_eq := by decide }⟩, [0x00, 0x80]⟩]
      width_le := by decide
      stride_holds := by decide
      length_eq := by simp [Device.width] }

/-- The wide bytes of a device, with a byte behind them, are read as the narrow ones are: as the
device without what is new. -/
theorem decode_encode?_append_single : ∃ bs wide, (Capture.single "GPU").encode? = some bs ∧
    single.encode? = some wide ∧ Capture.decode (wide ++ [0x2A]) = Capture.decode bs ∧
    Capture.decode (wide ++ [0x2A]) = .ok (Capture.single "GPU") := by
  obtain ⟨bs, hbs⟩ := Option.isSome_iff_exists.mp
    (Capture.isSome_encode?_of_encodable (by decide : (Capture.single "GPU").Encodable))
  have hstored : (Capture.single "GPU").stored = Capture.single "GPU" := by decide
  obtain ⟨wide, hwide, hread⟩ := decode_encode?_append (Capture.single "GPU") bs hbs single rfl
  refine ⟨bs, wide, hbs, hwide, hread [0x2A], ?_⟩
  rw [hread, Capture.decode_of_encode? hbs, hstored]

end NewerCapture

end SwitchTrace
