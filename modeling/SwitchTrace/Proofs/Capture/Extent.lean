import Mathlib.Algebra.GroupWithZero.Nat
import SwitchTrace.Capture.Report
import SwitchTrace.Proofs.Capture.Writing

/-!
# Where a capture ends in a file

Bytes cut off within an image are truncated, wherever the cut lies: in the magic bytes, in a header
or in the elements of an array. Bytes cut off behind it are read as the whole is. The number of
bytes of the image therefore is the one place at which the outcome changes.

## Main definitions

* `Capture.Image.size` — the number of bytes of an image, from the numbers in its headers.
* `Capture.IsExtent` — where the part of bytes ends that decides what is read of them.

## Main results

* `Capture.Image.exists_faulty_take` — a cut within an image is a truncation.
* `Capture.isExtent_iff` — bytes that are read have the size of their image as extent.
-/

namespace SwitchTrace

/-! ### Cuts -/

/-- A cut within a list of pieces lies within one of them. -/
theorem exists_take_flatMap {α β : Type} {f : α → List β} {as : List α} {k : Nat}
    (hk : k < (as.flatMap f).length) : ∃ before a after j, as = before ++ a :: after ∧
      j < (f a).length ∧ (as.flatMap f).take k = before.flatMap f ++ (f a).take j := by
  induction as generalizing k with
  | nil => exact absurd hk (Nat.not_lt_zero k)
  | cons a as ih =>
    by_cases ha : k < (f a).length
    · refine ⟨[], a, as, k, rfl, ha, ?_⟩
      rw [List.flatMap_cons, List.take_append_of_le_length (Nat.le_of_lt ha)]
      rfl
    · have hle : (f a).length ≤ k := Nat.le_of_not_lt ha
      rw [List.flatMap_cons, List.length_append] at hk
      have hrest : k - (f a).length < (as.flatMap f).length := by omega
      obtain ⟨before, b, after, j, rfl, hj, htake⟩ := ih hrest
      refine ⟨a :: before, b, after, j, rfl, hj, ?_⟩
      rw [List.flatMap_cons, List.take_append, List.take_of_length_le hle, htake, List.flatMap_cons,
        List.append_assoc]

/-- **A cut within a framed array** leaves too few bytes of its header or of its elements. -/
theorem ArrayFrame.exists_arrayFault_take {width : Nat} (f : ArrayFrame width) {k : Nat}
    (hk : k < f.bytes.length) (array : String) (offset : Nat) :
    ∃ fault, fault.code? = some .truncated ∧
      ArrayFault array width ⟨offset, f.bytes.take k⟩ fault := by
  by_cases hheader : k < ArrayHeader.size
  · refine ⟨_, rfl, .shortHeader ?_⟩
    rw [List.length_take_of_le (Nat.le_of_lt hk)]
    exact hheader
  · have htake : f.bytes.take k =
        f.header ++ f.elements.flatten.take (k - ArrayHeader.size) := by
      rw [bytes, List.take_append, f.length_header,
        List.take_of_length_le (Nat.le_trans (Nat.le_of_eq f.length_header)
          (Nat.le_of_not_lt hheader))]
    have hbody : (f.elements.flatten.take (k - ArrayHeader.size)).length < f.count * f.stride := by
      rw [f.length_bytes] at hk
      rw [List.length_take, f.length_flatten_elements]
      omega
    rw [htake]
    exact ⟨_, rfl, .missing f.length_header f.ofBytes_header f.width_le hbody⟩

namespace Capture

namespace Image

variable (image : Image)

/-- The number of bytes of an image: the magic bytes, and for each array its header and as many
elements of one length as the header says. -/
def size : Nat :=
  magic.length + (ArrayHeader.size + image.devices.count * image.devices.stride) +
    (image.records.map fun f => ArrayHeader.size + f.count * f.stride).sum

theorem length_bytes : image.bytes.length = image.size := by
  have hrecords : image.records.map (fun f => f.bytes.length) =
      image.records.map fun f => ArrayHeader.size + f.count * f.stride :=
    List.map_congr_left fun f _ => f.length_bytes
  rw [bytes, length_fileStart, List.length_flatMap, hrecords, image.devices.length_bytes]
  rfl

/-- **A cut within an image is a truncation.** -/
theorem exists_faulty_take {k : Nat} (hk : k < image.bytes.length) :
    ∃ fault, fault.code? = some .truncated ∧ Faulty (image.bytes.take k) fault := by
  rw [bytes, length_fileStart] at hk
  rw [bytes, fileStart]
  by_cases hmagic : k < magic.length
  · rw [List.take_append_of_le_length (Nat.le_of_lt hmagic)]
    refine ⟨_, rfl, .shortMagic (List.take_prefix k magic) fun h => ?_⟩
    have hlength := congrArg List.length h
    rw [List.length_take_of_le (Nat.le_of_lt hmagic)] at hlength
    omega
  have hle : magic.length ≤ k := Nat.le_of_not_lt hmagic
  rw [List.take_append, List.take_of_length_le hle]
  by_cases hdevices : k - magic.length < image.devices.bytes.length
  · rw [List.take_append_of_le_length (Nat.le_of_lt hdevices)]
    obtain ⟨fault, hcode, hfault⟩ := image.devices.exists_arrayFault_take hdevices
      "device descriptor" magic.length
    exact ⟨fault, hcode, .devices hfault⟩
  · have hrest : k - magic.length - image.devices.bytes.length <
        (image.records.flatMap ArrayFrame.bytes).length := by omega
    obtain ⟨before, f, after, j, hrecords, hj, htake⟩ := exists_take_flatMap hrest
    obtain ⟨fault, hcode, hfault⟩ := f.exists_arrayFault_take hj (recordArray before.length)
      (fileStart image.devices before).length
    have hindex : before.length < image.devices.count := by
      rw [← image.length_eq, hrecords, List.length_append, List.length_cons]
      omega
    rw [List.take_append, List.take_of_length_le (Nat.le_of_not_lt hdevices), htake,
      ← fileStart_append]
    exact ⟨fault, hcode, .records hindex hfault⟩

end Image

/-! ### Extents -/

/-- The first `n` bytes decide that the bytes are read as the capture: with fewer of them the bytes
are truncated, and whatever is cut off or put behind them is ignored. -/
structure IsExtent (data : Bytes) (c : Capture) (n : Nat) : Prop where
  le_length : n ≤ data.length
  truncated : ∀ k < n, ∃ fault, decode (data.take k) = .error fault ∧
    fault.code? = some .truncated
  read_take : ∀ k, n ≤ k → decode (data.take k) = .ok c
  read_append : ∀ tail, decode (data.take n ++ tail) = .ok c

/-- There is at most one extent. -/
theorem IsExtent.eq {data : Bytes} {c c' : Capture} {n m : Nat} (hn : IsExtent data c n)
    (hm : IsExtent data c' m) : n = m := by
  have hle : ∀ {c c' : Capture} {n m : Nat}, IsExtent data c n → IsExtent data c' m → n ≤ m := by
    intro c c' n m hn hm
    refine Nat.le_of_not_lt fun hlt => ?_
    obtain ⟨fault, hfault, -⟩ := hn.truncated m hlt
    rw [hm.read_take m (Nat.le_refl m)] at hfault
    cases hfault
  exact Nat.le_antisymm (hle hn hm) (hle hm hn)

theorem Image.isExtent {image : Image} {c : Capture} (h : image.Holds c) (tail : Bytes) :
    IsExtent (image.bytes ++ tail) c image.size where
  le_length := by
    rw [← image.length_bytes, List.length_append]
    exact Nat.le_add_right _ _
  truncated := by
    intro k hk
    rw [← image.length_bytes] at hk
    obtain ⟨fault, hcode, hfault⟩ := image.exists_faulty_take hk
    rw [List.take_append_of_le_length (Nat.le_of_lt hk)]
    exact ⟨fault, decode_of_faulty hfault, hcode⟩
  read_take := by
    intro k hk
    rw [← image.length_bytes] at hk
    rw [List.take_append, List.take_of_length_le hk]
    exact decode_bytes_append h _
  read_append := by
    intro x
    rw [← image.length_bytes, List.take_left]
    exact decode_bytes_append h x

/-- **The extent of a capture.** Bytes that are read begin with an image, and its size is their
only extent. The extent of bytes that were written of a capture is all of them. -/
theorem isExtent_iff :
    (∀ data c, decode data = .ok c → ∃ image : Image, ∃ tail, data = image.bytes ++ tail ∧
      ∀ n, IsExtent data c n ↔ n = image.size) ∧
    ∀ (c : Capture) bs, c.encode? = some bs → ∀ n, IsExtent bs c.stored n ↔ n = bs.length := by
  constructor
  · intro data c h
    obtain ⟨image, tail, rfl, hc⟩ := exists_image_of_decode h
    have hextent := image.isExtent hc tail
    refine ⟨image, tail, rfl, fun n => ⟨fun hn => hn.eq hextent, ?_⟩⟩
    rintro rfl
    exact hextent
  · intro c bs h
    obtain ⟨image, rfl, -, -, hc⟩ := exists_image_of_encode? h
    have hextent := image.isExtent hc []
    rw [List.append_nil, ← image.length_bytes] at hextent
    refine fun n => ⟨fun hn => hn.eq hextent, ?_⟩
    rintro rfl
    exact hextent

/-- Bytes without devices and with one byte behind them, and the bytes of one device. -/
theorem isExtent_iff_single :
    (∃ image : Image, ∃ tail,
      magic ++ [0x00, 0x00, 0x00, 0x00, 0x20, 0x01, 0x00, 0x00] ++ [0xFF] = image.bytes ++ tail ∧
        ∀ n, IsExtent (magic ++ [0x00, 0x00, 0x00, 0x00, 0x20, 0x01, 0x00, 0x00] ++ [0xFF]) ⟨[]⟩ n ↔
          n = image.size) ∧
      ∃ bs, (single "GPU").encode? = some bs ∧
        ∀ n, IsExtent bs (single "GPU").stored n ↔ n = bs.length := by
  constructor
  · exact isExtent_iff.1 _ _ (by decide)
  · obtain ⟨bs, hbs⟩ := Option.isSome_iff_exists.mp
      (isSome_encode?_of_encodable (by decide : (single "GPU").Encodable))
    exact ⟨bs, hbs, isExtent_iff.2 _ bs hbs⟩

end Capture

end SwitchTrace
