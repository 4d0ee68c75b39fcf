import SwitchTrace.Proofs.Capture.Image
import SwitchTrace.Proofs.Steps

/-!
# The readers on framed arrays and on faults

What each reader does with bytes that begin as it expects, and with bytes that do not. A reader of
one array gives the content of a framed array and stops behind it, and reports a fault where there
is one; the readers of all tracks and of a whole capture follow by induction on the arrays.

## Main results

* `readArray_bytes_append`, `outcome_readArray_of_arrayFault` — one array.
* `readTracks_bytes_append`, `outcome_readTracks_of_arrayFault` — the arrays of all devices.
* `Capture.decode_bytes_append`, `Capture.decode_of_faulty` — a whole capture.
* `Capture.exists_image_of_decode`, `Capture.faulty_of_decode` — the converses.
-/

namespace SwitchTrace

/-! ### One array -/

theorem mapM_readElement {α : Type} {layout : Layout α} {es : List Bytes} {as : List α}
    (h : List.Forall₂ (fun e a => layout.read? (e.take layout.width) = some a) es as) :
    es.mapM layout.readElement = .ok as := by
  induction h with
  | nil => rfl
  | cons ha _ ih =>
    rw [List.mapM_cons, Layout.readElement, ih]
    simp only [ha]
    rfl

theorem take?_append {offset : Nat} {chunk rest : Bytes} :
    (⟨offset, chunk ++ rest⟩ : Cursor).take? chunk.length =
      some (chunk, ⟨offset + chunk.length, rest⟩) :=
  Cursor.take?_eq_some_iff.mpr ⟨rfl, rfl, rfl⟩

/-- **A header is never too short**: all bytes of it are taken before it is read. -/
theorem readArray_eq {α : Type} (layout : Layout α) (c : Cursor) : readArray layout c =
    match c.take? ArrayHeader.size with
    | none =>
      ⟨.error (.truncated (.arrayHeader layout.array) c.offset ArrayHeader.size c.remaining), c,
        []⟩
    | some (bytes, body) => readElements layout (.ofBytes bytes) body := by
  rw [readArray]
  cases htake : c.take? ArrayHeader.size with
  | none => rfl
  | some taken =>
    have hlength : ArrayHeader.size = taken.1.length := (Cursor.take?_eq_some_iff.mp htake).1
    have hheader : ArrayHeader.ofBytes? taken.1 = some (.ofBytes taken.1) :=
      if_pos (Nat.le_of_eq hlength)
    simp only [hheader]

/-- **A framed array is read to its end.** -/
theorem readArray_bytes_append {α : Type} (layout : Layout α) (f : ArrayFrame layout.width)
    {as : List α} (has : f.Lists layout.read? as) (offset : Nat) (rest : Bytes) :
    readArray layout ⟨offset, f.bytes ++ rest⟩ =
      ⟨.ok as, ⟨offset + f.bytes.length, rest⟩, skippedLog layout ⟨f.count, f.stride⟩⟩ := by
  have hheader : (⟨offset, f.bytes ++ rest⟩ : Cursor).take? ArrayHeader.size =
      some (f.header, ⟨offset + ArrayHeader.size, f.elements.flatten ++ rest⟩) := by
    rw [ArrayFrame.bytes, List.append_assoc, ← f.length_header]
    exact take?_append
  have hneeded : (ArrayHeader.payloadSize ⟨f.count, f.stride⟩).toNat =
      f.elements.flatten.length := by
    rw [f.length_flatten_elements]
    rfl
  have hcount : ¬ (f.count : Int) < 0 := Int.not_lt.mpr (Int.natCast_nonneg f.count)
  have hsize : ¬ (f.stride : Int) < layout.width := Int.not_lt.mpr (Int.ofNat_le.mpr f.width_le)
  have helements : strides f.stride f.count f.elements.flatten = f.elements :=
    strides_flatten f.length_eq
  have hoffset : offset + f.bytes.length =
      offset + ArrayHeader.size + f.elements.flatten.length := by
    rw [f.length_bytes, f.length_flatten_elements, Nat.add_assoc]
  rw [readArray_eq, hheader]
  simp only [readElements, f.ofBytes_header, hcount, hsize, ↓reduceIte, hneeded, take?_append,
    Int.toNat_natCast, helements, mapM_readElement has, hoffset]

theorem readArray_device (array : String) (f : ArrayFrame Device.width) {ds : List Device}
    (hds : f.Lists Device.ofBytes? ds) (offset : Nat) (rest : Bytes) :
    readArray (.device array) ⟨offset, f.bytes ++ rest⟩ =
      ⟨.ok ds, ⟨offset + f.bytes.length, rest⟩, skippedLog (.device array) ⟨f.count, f.stride⟩⟩ :=
  readArray_bytes_append (.device array) f hds offset rest

theorem readArray_record (array : String) (f : ArrayFrame Record.width) {rs : List Record}
    (hrs : f.Lists Record.ofBytes? rs) (offset : Nat) (rest : Bytes) :
    readArray (.record array) ⟨offset, f.bytes ++ rest⟩ =
      ⟨.ok rs, ⟨offset + f.bytes.length, rest⟩, skippedLog (.record array) ⟨f.count, f.stride⟩⟩ :=
  readArray_bytes_append (.record array) f hrs offset rest

/-- **A fault of an array is reported.** -/
theorem outcome_readArray_of_arrayFault {α : Type} {layout : Layout α} {c : Cursor}
    {fault : DecodeFault} (h : ArrayFault layout.array layout.width c fault) :
    (readArray layout c).outcome = .error fault := by
  cases h with
  | shortHeader hrest =>
    rw [readArray_eq, Cursor.take?_eq_none_iff.mpr hrest]
    rfl
  | negativeCount hlength hheader hcount =>
    rw [readArray_eq, ← hlength, take?_append]
    simp only [readElements, hheader, hcount, ↓reduceIte]
  | @narrow _ _ _ count _ hlength hheader hsize =>
    have hcount : ¬ (count : Int) < 0 := Int.not_lt.mpr (Int.natCast_nonneg count)
    rw [readArray_eq, ← hlength, take?_append]
    simp only [readElements, hheader, hcount, hsize, ↓reduceIte]
  | @missing offset header body count stride hlength hheader hstride hbody =>
    have hcount : ¬ (count : Int) < 0 := Int.not_lt.mpr (Int.natCast_nonneg count)
    have hsize : ¬ (stride : Int) < layout.width := Int.not_lt.mpr (Int.ofNat_le.mpr hstride)
    have hneeded : (ArrayHeader.payloadSize ⟨count, stride⟩).toNat = count * stride := rfl
    have htake : (⟨offset + header.length, body⟩ : Cursor).take? (count * stride) = none :=
      Cursor.take?_eq_none_iff.mpr hbody
    rw [readArray_eq, ← hlength, take?_append]
    simp only [readElements, hheader, hcount, hsize, ↓reduceIte, hneeded, htake]
    rfl

/-! ### The arrays of all devices -/

/-- The outcome of a reading that goes on is that of the steps one after the other. -/
theorem Scan.outcome_andThen {α β : Type} (s : Scan α) (next : α → Cursor → Scan β) :
    (s.andThen next).outcome = s.outcome >>= fun a => (next a s.cursor).outcome := by
  obtain ⟨outcome, c, log⟩ := s
  cases outcome <;> rfl

theorem Scan.outcome_andThen_error {α β : Type} {s : Scan α} {fault : DecodeFault}
    {next : α → Cursor → Scan β} (h : s.outcome = .error fault) :
    (s.andThen next).outcome = .error fault := by
  simp only [andThen, h]

theorem Scan.outcome_andThen_ok {α β : Type} {s : Scan α} {a : α} {next : α → Cursor → Scan β}
    (h : s.outcome = .ok a) : (s.andThen next).outcome = (next a s.cursor).outcome := by
  simp only [andThen, h]

/-- A reading that goes on twice goes on once, with both one after the other. -/
theorem Scan.andThen_assoc {α β γ : Type} (s : Scan α) (f : α → Cursor → Scan β)
    (g : β → Cursor → Scan γ) :
    (s.andThen f).andThen g = s.andThen fun a c => (f a c).andThen g := by
  obtain ⟨outcome, c, log⟩ := s
  cases outcome with
  | error fault => rfl
  | ok a =>
    cases h : (f a c).outcome <;> simp [andThen, h]

theorem Scan.pure_andThen {α β : Type} (a : α) (c : Cursor) (next : α → Cursor → Scan β) :
    (Scan.pure a c).andThen next = next a c := by
  simp [andThen, Scan.pure]

/-- Reads the records of the given devices, the first of them having the given number. -/
def readTracks : Nat → List Device → Cursor → Scan (List Track)
  | _, [], c => .pure [] c
  | index, device :: devices, c =>
    (readArray (.record (recordArray index)) c).andThen fun records c =>
      (readTracks (index + 1) devices c).andThen fun tracks c =>
        .pure (⟨device, records⟩ :: tracks) c

/-- Records that are read for devices make the tracks of the devices. -/
theorem readTracks_eq (index : Nat) (devices : List Device) (c : Cursor) :
    readTracks index devices c = (readRecords index devices.length c).andThen fun records c =>
      .pure (List.zipWith Track.mk devices records) c := by
  induction devices generalizing index c with
  | nil => rfl
  | cons device devices ih =>
    simp only [readTracks, List.length_cons, readRecords, ih, Scan.andThen_assoc,
      Scan.pure_andThen, List.zipWith_cons_cons]

theorem length_of_readRecords {index count : Nat} {c : Cursor} {records : List (List Record)}
    (h : (readRecords index count c).outcome = .ok records) : records.length = count := by
  induction count generalizing index c records with
  | zero =>
    cases h
    rfl
  | succ count ih =>
    rw [readRecords, Scan.outcome_andThen] at h
    obtain ⟨first, -, h⟩ := bind_eq_ok_iff.mp h
    rw [Scan.outcome_andThen] at h
    obtain ⟨rest, hrest, h⟩ := bind_eq_ok_iff.mp h
    cases h
    rw [List.length_cons, ih hrest]

/-- **As many arrays of records are read as there are descriptors**, so that they make a capture. -/
theorem outcome_readRecords_assemble (devices : List Device) (c : Cursor) :
    (readRecords 0 devices.length c).outcome >>= Capture.assemble devices =
      (readTracks 0 devices c).outcome >>= fun tracks => .ok ⟨tracks⟩ := by
  rw [readTracks_eq, Scan.outcome_andThen]
  cases h : (readRecords 0 devices.length c).outcome with
  | error fault => rfl
  | ok records =>
    have hlists : Capture.ofLists? devices records =
        some ⟨List.zipWith Track.mk devices records⟩ :=
      if_pos (length_of_readRecords h).symm
    change Capture.assemble devices records = .ok ⟨List.zipWith Track.mk devices records⟩
    rw [Capture.assemble, hlists]

/-- **The arrays of all devices are read one after the other**, whatever follows the last one. -/
theorem readTracks_bytes_append {frames : List (ArrayFrame Record.width)} {tracks : List Track}
    (h : List.Forall₂ ArrayFrame.ListsRecords frames tracks) (index offset : Nat) (rest : Bytes) :
    (readTracks index (tracks.map Track.device)
      ⟨offset, frames.flatMap ArrayFrame.bytes ++ rest⟩).outcome = .ok tracks := by
  induction h generalizing index offset with
  | nil => rfl
  | @cons f t fs ts hf _ ih =>
    have hread := readArray_record (recordArray index) f hf offset
      (fs.flatMap ArrayFrame.bytes ++ rest)
    rw [List.flatMap_cons, List.append_assoc, List.map_cons, readTracks,
      Scan.outcome_andThen_ok (congrArg Scan.outcome hread), hread,
      Scan.outcome_andThen_ok (ih (index + 1) _)]
    rfl

/-- **The first fault of an array of records is reported.** -/
theorem outcome_readTracks_of_arrayFault {devices : List Device}
    {before : List (ArrayFrame Record.width)} {index offset : Nat} {rest : Bytes}
    {fault : DecodeFault} (hindex : before.length < devices.length)
    (hfault : ArrayFault (recordArray (index + before.length)) Record.width
      ⟨offset + (before.flatMap ArrayFrame.bytes).length, rest⟩ fault) :
    (readTracks index devices ⟨offset, before.flatMap ArrayFrame.bytes ++ rest⟩).outcome =
      .error fault := by
  induction before generalizing index offset devices with
  | nil =>
    obtain ⟨d, ds, rfl⟩ := List.exists_cons_of_length_pos hindex
    rw [readTracks]
    exact Scan.outcome_andThen_error (outcome_readArray_of_arrayFault hfault)
  | cons f fs ih =>
    obtain ⟨d, ds, rfl⟩ := List.exists_cons_of_length_pos (Nat.zero_lt_of_lt hindex)
    obtain ⟨records, hrecords⟩ := f.exists_lists fun _ => Record.exists_ofBytes?
    have hread := readArray_record (recordArray index) f hrecords offset
      (fs.flatMap ArrayFrame.bytes ++ rest)
    have htail : (readTracks (index + 1) ds
        ⟨offset + f.bytes.length, fs.flatMap ArrayFrame.bytes ++ rest⟩).outcome =
          .error fault := by
      refine ih (Nat.lt_of_succ_lt_succ hindex) ?_
      rw [List.length_cons, List.flatMap_cons, List.length_append, ← Nat.add_assoc offset,
        Nat.add_comm fs.length 1, ← Nat.add_assoc index] at hfault
      exact hfault
    rw [List.flatMap_cons, List.append_assoc, readTracks,
      Scan.outcome_andThen_ok (congrArg Scan.outcome hread), hread]
    exact Scan.outcome_andThen_error htail

/-! ### A whole capture -/

namespace Capture

theorem decode_eq_outcome (data : Bytes) : decode data =
    (readLists (.start data)).outcome >>= fun lists => assemble lists.1 lists.2 := by
  rw [decode, decodeLogged]
  cases (readLists (.start data)).outcome <;> rfl

theorem readMagic_append (rest : Bytes) :
    readMagic (.start (magic ++ rest)) = .pure () ⟨magic.length, rest⟩ := by
  have htake : (Cursor.start (magic ++ rest)).take? magic.length =
      some (magic, ⟨magic.length, rest⟩) := by
    rw [Cursor.start, take?_append, Nat.zero_add]
  rw [readMagic, htake]
  exact if_pos rfl

/-- What follows the magic bytes decides the outcome. -/
theorem decode_magic_append (rest : Bytes) : decode (magic ++ rest) =
    ((readArray (.device "device descriptor") ⟨magic.length, rest⟩).andThen fun devices c =>
      (readTracks 0 devices c).andThen fun tracks c => .pure ⟨tracks⟩ c).outcome := by
  rw [decode_eq_outcome, readLists, readMagic_append, Scan.pure_andThen]
  simp only [Scan.outcome_andThen, bind_assoc]
  refine bind_congr fun ds => ?_
  exact outcome_readRecords_assemble ds _

theorem decode_fileStart_append (devices : ArrayFrame Device.width)
    (records : List (ArrayFrame Record.width)) {ds : List Device}
    (hdevices : devices.Lists Device.ofBytes? ds) (rest : Bytes) :
    decode (fileStart devices records ++ rest) =
      ((readTracks 0 ds ⟨magic.length + devices.bytes.length,
        records.flatMap ArrayFrame.bytes ++ rest⟩).andThen fun tracks c =>
          .pure ⟨tracks⟩ c).outcome := by
  have hread := readArray_device "device descriptor" devices hdevices magic.length
    (records.flatMap ArrayFrame.bytes ++ rest)
  rw [fileStart_append, decode_magic_append,
    Scan.outcome_andThen_ok (congrArg Scan.outcome hread), hread]

/-- **An image is read as its content**, whatever follows it. -/
theorem decode_bytes_append {image : Image} {c : Capture} (h : image.Holds c) (tail : Bytes) :
    decode (image.bytes ++ tail) = .ok c := by
  have htracks := readTracks_bytes_append h.records 0
    (magic.length + image.devices.bytes.length) tail
  rw [Image.bytes, decode_fileStart_append _ _ h.devices, devices,
    Scan.outcome_andThen_ok htracks]
  rfl

/-- What is read of an image is its content. -/
theorem holds_of_decode {image : Image} {tail : Bytes} {c : Capture}
    (h : decode (image.bytes ++ tail) = .ok c) : image.Holds c := by
  obtain ⟨c', hc'⟩ := image.exists_holds
  rw [decode_bytes_append hc'] at h
  cases h
  exact hc'

theorem decode_of_readMagic {data : Bytes} {fault : DecodeFault}
    (h : (readMagic (.start data)).outcome = .error fault) : decode data = .error fault := by
  rw [decode_eq_outcome, readLists, Scan.outcome_andThen_error h]
  rfl

/-- **The first fault is reported.** -/
theorem decode_of_faulty {data : Bytes} {fault : DecodeFault} (h : Faulty data fault) :
    decode data = .error fault := by
  cases h with
  | badMagic hdata hmagic =>
    refine decode_of_readMagic ?_
    by_cases hshort : data.length < magic.length
    · have htake : (Cursor.start data).take? magic.length = none :=
        Cursor.take?_eq_none_iff.mpr hshort
      have hstart : ¬ (Cursor.start data).rest.isPrefixOf magic = true := fun h =>
        hdata (List.isPrefixOf_iff_prefix.mp h)
      rw [readMagic, htake, List.take_of_length_le (Nat.le_of_lt hshort)]
      simp only [hstart]
      rfl
    · have htake : (Cursor.start data).take? magic.length =
          some (data.take magic.length, ⟨0 + magic.length, data.drop magic.length⟩) :=
        if_pos (Nat.le_of_not_lt hshort)
      have hne : ¬ data.take magic.length = magic := fun h =>
        hmagic (h ▸ List.take_prefix magic.length data)
      rw [readMagic, htake]
      simp only [hne, ↓reduceIte]
  | shortMagic hdata hne =>
    refine decode_of_readMagic ?_
    have hlength : data.length < magic.length :=
      Nat.lt_of_le_of_ne hdata.length_le fun h => hne (hdata.eq_of_length h)
    have htake : (Cursor.start data).take? magic.length = none :=
      Cursor.take?_eq_none_iff.mpr hlength
    have hstart : (Cursor.start data).rest.isPrefixOf magic = true :=
      List.isPrefixOf_iff_prefix.mpr hdata
    rw [readMagic, htake]
    simp only [hstart, ↓reduceIte]
    rfl
  | devices hfault =>
    rw [decode_magic_append]
    exact Scan.outcome_andThen_error (outcome_readArray_of_arrayFault hfault)
  | @records devices before rest _ hindex hfault =>
    obtain ⟨ds, hdevices⟩ := devices.exists_lists fun _ => Device.exists_ofBytes?
    rw [decode_fileStart_append devices before hdevices]
    refine Scan.outcome_andThen_error (outcome_readTracks_of_arrayFault ?_ ?_)
    · rw [← hdevices.length_eq]
      exact hindex
    · rw [Nat.zero_add]
      rw [length_fileStart] at hfault
      exact hfault

/-- What is read begins with an image. -/
theorem exists_image_of_decode {data : Bytes} {c : Capture} (h : decode data = .ok c) :
    ∃ image : Image, ∃ tail, data = image.bytes ++ tail ∧ image.Holds c := by
  rcases image_or_faulty data with ⟨image, tail, rfl⟩ | ⟨fault, hfault⟩
  · exact ⟨image, tail, rfl, holds_of_decode h⟩
  · rw [decode_of_faulty hfault] at h
    cases h

/-- What is refused is faulty. -/
theorem faulty_of_decode {data : Bytes} {fault : DecodeFault} (h : decode data = .error fault) :
    Faulty data fault := by
  rcases image_or_faulty data with ⟨image, tail, rfl⟩ | ⟨fault', hfault'⟩
  · obtain ⟨c, hc⟩ := image.exists_holds
    rw [decode_bytes_append hc] at h
    cases h
  · rw [decode_of_faulty hfault'] at h
    cases h
    exact hfault'

end Capture

end SwitchTrace
