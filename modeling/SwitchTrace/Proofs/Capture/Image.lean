import Mathlib.Data.List.Forall2
import SwitchTrace.Capture.Codec
import SwitchTrace.Proofs.Capture.Element

/-!
# How captures and faults lie in a file

The language of captures, stated without a reader. A framed array is a header with the number of
its elements and their length, and the elements; a newer format may have written longer elements
than this one knows. A capture is the magic bytes, an array of descriptors, and one array of records
for each descriptor. What else a file can be is described by where it first goes wrong.

The number of arrays depends on the first array and every array has a length of its own, so both
sides are described by lists of frames, and every byte string is shown to be on one of the sides by
cutting off one frame after the other.

## Main definitions

* `ArrayFrame` — a framed array, with its bytes `ArrayFrame.bytes` and its content
  `ArrayFrame.Lists`.
* `ArrayFault` — what is wrong at a place where no framed array begins.
* `Capture.Image` — the bytes of a capture, with its content `Capture.Image.Holds`.
* `Capture.Faulty` — what is wrong with bytes that do not begin with a capture.

## Main results

* `ArrayFrame.exists_or_arrayFault`, `Capture.image_or_faulty` — there is no third case.
* `Capture.Image.exists_holds` — every image has a content.
-/

namespace SwitchTrace

/-! ### Framed arrays -/

/-- A framed array as it lies in a file. The elements have one length, their stride, of which the
first `width` bytes are known; both numbers of the header fit into their fields. -/
structure ArrayFrame (width : Nat) where
  stride : Nat
  elements : List Bytes
  width_le : width ≤ stride
  length_eq : ∀ e ∈ elements, e.length = stride
  stride_holds : IntField.i32.Holds stride
  count_holds : IntField.i32.Holds elements.length

namespace ArrayFrame

variable {width : Nat} (f : ArrayFrame width)

/-- The number of elements. -/
def count : Nat := f.elements.length

/-- The bytes of the header: the number of elements, then their length. -/
def header : Bytes := LittleEndian.ofNat 4 f.count ++ LittleEndian.ofNat 4 f.stride

/-- The bytes of the array. -/
def bytes : Bytes := f.header ++ f.elements.flatten

/-- The elements of the array stand for the values of the list, in the same order. Of every
element only the known bytes are read. -/
def Lists {α : Type} (read? : Bytes → Option α) (as : List α) : Prop :=
  List.Forall₂ (fun e a => read? (e.take width) = some a) f.elements as

/-- The elements of the array stand for the records of the track. -/
def ListsRecords (f : ArrayFrame Record.width) (t : Track) : Prop :=
  f.Lists Record.ofBytes? t.records

theorem length_header : f.header.length = ArrayHeader.size := by
  rw [header, List.length_append, LittleEndian.length_ofNat, LittleEndian.length_ofNat]
  rfl

theorem length_flatten_elements : f.elements.flatten.length = f.count * f.stride :=
  length_flatten_of_forall f.length_eq

theorem length_bytes : f.bytes.length = ArrayHeader.size + f.count * f.stride := by
  rw [bytes, List.length_append, length_header, length_flatten_elements]

/-- The header says what is framed. -/
theorem ofBytes_header : ArrayHeader.ofBytes f.header = ⟨f.count, f.stride⟩ := by
  have hcount : (LittleEndian.ofNat 4 f.count).length = 4 := LittleEndian.length_ofNat 4 f.count
  have hstride : (LittleEndian.ofNat 4 f.stride).length = 4 :=
    LittleEndian.length_ofNat 4 f.stride
  rw [ArrayHeader.ofBytes, header, slice_zero_append hcount,
    slice_append_of_le hcount (by decide), slice_zero_self hstride]
  exact congrArg₂ ArrayHeader.mk (IntField.decode_ofNat f.count_holds)
    (IntField.decode_ofNat f.stride_holds)

theorem exists_lists {α : Type} {read? : Bytes → Option α}
    (hread : ∀ bs, width ≤ bs.length → ∃ a, read? bs = some a) : ∃ as, f.Lists read? as := by
  have hall : ∀ es : List Bytes, (∀ e ∈ es, e.length = f.stride) →
      ∃ as, List.Forall₂ (fun e a => read? (e.take width) = some a) es as := by
    intro es
    induction es with
    | nil => exact fun _ => ⟨[], .nil⟩
    | cons e es ih =>
      intro hes
      have he : width ≤ (e.take width).length := by
        have hlen := hes e List.mem_cons_self
        have hwidth := f.width_le
        rw [List.length_take]
        omega
      obtain ⟨a, ha⟩ := hread _ he
      obtain ⟨as, has⟩ := ih fun e' he' => hes e' (List.mem_cons_of_mem e he')
      exact ⟨a :: as, .cons ha has⟩
  exact hall f.elements f.length_eq

end ArrayFrame

/-- What is wrong at a place where no framed array begins. A header is judged once it is complete,
its count before its element size, and both before the bytes of the elements are looked for. -/
inductive ArrayFault (array : String) (width : Nat) : Cursor → DecodeFault → Prop
  /-- The header is not complete. -/
  | shortHeader {offset : Nat} {rest : Bytes} (hrest : rest.length < ArrayHeader.size) :
      ArrayFault array width ⟨offset, rest⟩
        (.truncated (.arrayHeader array) offset ArrayHeader.size rest.length)
  /-- The number of elements is negative, whatever their length is said to be. -/
  | negativeCount {offset : Nat} {header body : Bytes} {count size : Int}
      (hlength : header.length = ArrayHeader.size)
      (hheader : ArrayHeader.ofBytes header = ⟨count, size⟩) (hcount : count < 0) :
      ArrayFault array width ⟨offset, header ++ body⟩ (.negativeCount array count)
  /-- The elements are shorter than this format needs, however many there are. -/
  | narrow {offset : Nat} {header body : Bytes} {count : Nat} {size : Int}
      (hlength : header.length = ArrayHeader.size)
      (hheader : ArrayHeader.ofBytes header = ⟨count, size⟩) (hsize : size < width) :
      ArrayFault array width ⟨offset, header ++ body⟩ (.olderVersion array size width)
  /-- The elements are not complete. -/
  | missing {offset : Nat} {header body : Bytes} {count stride : Nat}
      (hlength : header.length = ArrayHeader.size)
      (hheader : ArrayHeader.ofBytes header = ⟨count, stride⟩) (hstride : width ≤ stride)
      (hbody : body.length < count * stride) :
      ArrayFault array width ⟨offset, header ++ body⟩
        (.truncated (.elements count array) (offset + ArrayHeader.size) (count * stride)
          body.length)

namespace ArrayFrame

variable {width : Nat}

/-- A header whose numbers are in order frames as many bytes as it says. -/
theorem exists_of_ofBytes {header body : Bytes} {count stride : Nat}
    (hlength : header.length = ArrayHeader.size)
    (hheader : ArrayHeader.ofBytes header = ⟨count, stride⟩) (hstride : width ≤ stride)
    (hbody : count * stride ≤ body.length) :
    ∃ f : ArrayFrame width, ∃ rest, header ++ body = f.bytes ++ rest := by
  obtain ⟨hcount, hsize⟩ := ArrayHeader.mk.inj hheader
  have h0 : (slice 0 4 header).length = IntField.i32.width := length_slice (by rw [hlength]; decide)
  have h4 : (slice 4 4 header).length = IntField.i32.width := length_slice (by rw [hlength]; decide)
  have hpayload : (body.take (count * stride)).length = count * stride :=
    List.length_take_of_le hbody
  let f : ArrayFrame width :=
    { stride := stride
      elements := strides stride count (body.take (count * stride))
      width_le := hstride
      length_eq := length_of_mem_strides hpayload
      stride_holds := hsize ▸ IntField.holds_decode (by decide) h4
      count_holds := by
        rw [length_strides]
        exact hcount ▸ IntField.holds_decode (by decide) h0 }
  have hf : f.header = header := by
    have hfirst : LittleEndian.ofNat 4 count = slice 0 4 header :=
      IntField.ofNat_of_decode_eq (by decide) h0 hcount
    have hsecond : LittleEndian.ofNat 4 stride = slice 4 4 header :=
      IntField.ofNat_of_decode_eq (by decide) h4 hsize
    change LittleEndian.ofNat 4 (strides stride count _).length ++ LittleEndian.ofNat 4 stride = _
    rw [length_strides, hfirst, hsecond, slice_zero_append_slice hlength]
  refine ⟨f, body.drop (count * stride), ?_⟩
  rw [bytes, hf, show f.elements.flatten = _ from flatten_strides hpayload, List.append_assoc,
    List.take_append_drop]

/-- **A framed array or a fault begins at every place.** -/
theorem exists_or_arrayFault (array : String) (width offset : Nat) (rest : Bytes) :
    (∃ f : ArrayFrame width, ∃ tail, rest = f.bytes ++ tail) ∨
      ∃ fault, ArrayFault array width ⟨offset, rest⟩ fault := by
  by_cases hrest : rest.length < ArrayHeader.size
  · exact .inr ⟨_, .shortHeader hrest⟩
  obtain ⟨header, body, hlength, rfl⟩ : ∃ header body, header.length = ArrayHeader.size ∧
      rest = header ++ body :=
    ⟨rest.take ArrayHeader.size, rest.drop ArrayHeader.size,
      List.length_take_of_le (Nat.le_of_not_lt hrest), (List.take_append_drop _ _).symm⟩
  obtain ⟨count, size, hheader⟩ : ∃ count size, ArrayHeader.ofBytes header = ⟨count, size⟩ :=
    ⟨_, _, rfl⟩
  by_cases hcount : count < 0
  · exact .inr ⟨_, .negativeCount hlength hheader hcount⟩
  obtain ⟨n, rfl⟩ := Int.eq_ofNat_of_zero_le (Int.not_lt.mp hcount)
  by_cases hsize : size < width
  · exact .inr ⟨_, .narrow hlength hheader hsize⟩
  obtain ⟨stride, rfl⟩ := Int.eq_ofNat_of_zero_le
    (Int.le_trans (Int.natCast_nonneg width) (Int.not_lt.mp hsize))
  have hstride : width ≤ stride := Int.ofNat_le.mp (Int.not_lt.mp hsize)
  by_cases hbody : body.length < n * stride
  · exact .inr ⟨_, .missing hlength hheader hstride hbody⟩
  · exact .inl (exists_of_ofBytes hlength hheader hstride (Nat.le_of_not_lt hbody))

end ArrayFrame

/-! ### Captures -/

namespace Capture

/-- The bytes of a file up to and with the given arrays. -/
def fileStart (devices : ArrayFrame Device.width) (records : List (ArrayFrame Record.width)) :
    Bytes :=
  magic ++ (devices.bytes ++ records.flatMap ArrayFrame.bytes)

section Start

variable (devices : ArrayFrame Device.width) (records : List (ArrayFrame Record.width))

theorem fileStart_append (rest : Bytes) : fileStart devices records ++ rest =
    magic ++ (devices.bytes ++ (records.flatMap ArrayFrame.bytes ++ rest)) := by
  rw [fileStart, List.append_assoc, List.append_assoc]

theorem length_fileStart : (fileStart devices records).length =
    magic.length + devices.bytes.length + (records.flatMap ArrayFrame.bytes).length := by
  rw [fileStart, List.length_append, List.length_append, Nat.add_assoc]

end Start

/-- A capture as it lies in a file: the array of descriptors and one array of records for each
descriptor, in the same order. -/
structure Image where
  devices : ArrayFrame Device.width
  records : List (ArrayFrame Record.width)
  length_eq : records.length = devices.count

namespace Image

/-- The bytes of an image, from the magic bytes to the end of the last array. -/
def bytes (image : Image) : Bytes := fileStart image.devices image.records

/-- The arrays of the image stand for the descriptors and for the records of each device. -/
structure Holds (image : Image) (c : Capture) : Prop where
  devices : image.devices.Lists Device.ofBytes? c.devices
  records : List.Forall₂ ArrayFrame.ListsRecords image.records c.tracks

end Image

/-- What is wrong with bytes that do not begin with a capture: the magic bytes, or the first array
in the order of the file at whose place no framed array begins. -/
inductive Faulty : Bytes → DecodeFault → Prop
  /-- The bytes neither begin with the magic bytes nor could be continued to. -/
  | badMagic {data : Bytes} (hdata : ¬ data <+: magic) (hmagic : ¬ magic <+: data) :
      Faulty data (.badMagic (data.take magic.length))
  /-- The bytes end within the magic bytes. -/
  | shortMagic {data : Bytes} (hdata : data <+: magic) (hne : data ≠ magic) :
      Faulty data (.truncated .fileHeader 0 magic.length data.length)
  /-- The array of descriptors is faulty. -/
  | devices {rest : Bytes} {fault : DecodeFault}
      (hfault : ArrayFault "device descriptor" Device.width ⟨magic.length, rest⟩ fault) :
      Faulty (magic ++ rest) fault
  /-- The array of records of one device is faulty, and all arrays before it are not. -/
  | records {devices : ArrayFrame Device.width} {before : List (ArrayFrame Record.width)}
      {rest : Bytes} {fault : DecodeFault} (hindex : before.length < devices.count)
      (hfault : ArrayFault (recordArray before.length) Record.width
        ⟨(fileStart devices before).length, rest⟩ fault) :
      Faulty (fileStart devices before ++ rest) fault

/-! ### Every byte string is on one side -/

/-- As many arrays of records as asked for, or a fault behind fewer of them. -/
theorem exists_frames_or_arrayFault (count index offset : Nat) (rest : Bytes) :
    (∃ frames : List (ArrayFrame Record.width), frames.length = count ∧
      ∃ tail, rest = frames.flatMap ArrayFrame.bytes ++ tail) ∨
    ∃ before : List (ArrayFrame Record.width), before.length < count ∧
      ∃ tail fault, rest = before.flatMap ArrayFrame.bytes ++ tail ∧
        ArrayFault (recordArray (index + before.length)) Record.width
          ⟨offset + (before.flatMap ArrayFrame.bytes).length, tail⟩ fault := by
  induction count generalizing index offset rest with
  | zero => exact .inl ⟨[], rfl, rest, rfl⟩
  | succ count ih =>
    rcases ArrayFrame.exists_or_arrayFault (recordArray index) Record.width offset rest with
      ⟨f, tail, rfl⟩ | ⟨fault, hfault⟩
    · rcases ih (index + 1) (offset + f.bytes.length) tail with
        ⟨frames, hlength, tail, rfl⟩ | ⟨before, hlt, tail, fault, rfl, hfault⟩
      · refine .inl ⟨f :: frames, ?_, tail, ?_⟩
        · rw [List.length_cons, hlength]
        · rw [List.flatMap_cons, List.append_assoc]
      · refine .inr ⟨f :: before, Nat.succ_lt_succ hlt, tail, fault, ?_, ?_⟩
        · rw [List.flatMap_cons, List.append_assoc]
        · rw [List.length_cons, List.flatMap_cons, List.length_append, ← Nat.add_assoc offset,
            Nat.add_comm before.length 1, ← Nat.add_assoc index]
          exact hfault
    · exact .inr ⟨[], Nat.succ_pos count, rest, fault, rfl, hfault⟩

/-- **Bytes begin with a capture or are faulty.** -/
theorem image_or_faulty (data : Bytes) :
    (∃ image : Image, ∃ tail, data = image.bytes ++ tail) ∨ ∃ fault, Faulty data fault := by
  by_cases hmagic : magic <+: data
  · obtain ⟨rest, rfl⟩ := hmagic
    rcases ArrayFrame.exists_or_arrayFault "device descriptor" Device.width magic.length rest with
      ⟨devices, rest, rfl⟩ | ⟨fault, hfault⟩
    · rcases exists_frames_or_arrayFault devices.count 0
          (magic.length + devices.bytes.length) rest with
        ⟨frames, hlength, tail, rfl⟩ | ⟨before, hlt, tail, fault, rfl, hfault⟩
      · exact .inl ⟨⟨devices, frames, hlength⟩, tail, (fileStart_append devices frames tail).symm⟩
      · refine .inr ⟨fault, ?_⟩
        rw [← fileStart_append]
        refine .records hlt ?_
        rw [length_fileStart, ← Nat.zero_add before.length]
        exact hfault
    · exact .inr ⟨fault, .devices hfault⟩
  · by_cases hdata : data <+: magic
    · exact .inr ⟨_, .shortMagic hdata fun h => hmagic (h ▸ List.prefix_refl magic)⟩
    · exact .inr ⟨_, .badMagic hdata hmagic⟩

/-! ### Contents -/

/-- Descriptors and arrays of records have tracks as their content. -/
theorem exists_tracks {devices : List Device} {frames : List (ArrayFrame Record.width)}
    (h : frames.length = devices.length) : ∃ tracks : List Track,
      tracks.map Track.device = devices ∧
      List.Forall₂ ArrayFrame.ListsRecords frames tracks := by
  induction devices generalizing frames with
  | nil =>
    rw [List.length_eq_zero_iff.mp h]
    exact ⟨[], rfl, .nil⟩
  | cons d ds ih =>
    obtain ⟨f, fs, rfl⟩ := List.exists_cons_of_length_eq_add_one h
    obtain ⟨records, hrecords⟩ := f.exists_lists fun _ => Record.exists_ofBytes?
    obtain ⟨tracks, hdevices, htracks⟩ := ih (Nat.succ.inj h)
    exact ⟨⟨d, records⟩ :: tracks, congrArg (d :: ·) hdevices, .cons hrecords htracks⟩

/-- **Every image has a content.** -/
theorem Image.exists_holds (image : Image) : ∃ c, image.Holds c := by
  obtain ⟨devices, hdevices⟩ := image.devices.exists_lists fun _ => Device.exists_ofBytes?
  have hlength : image.records.length = devices.length := by
    rw [image.length_eq, ArrayFrame.count, hdevices.length_eq]
  obtain ⟨tracks, rfl, htracks⟩ := exists_tracks hlength
  exact ⟨⟨tracks⟩, hdevices, htracks⟩

end Capture

end SwitchTrace
