import SwitchTrace.Proofs.Capture.Reading

/-!
# Arrays read one after the other

One cursor serves any number of readings of arrays, also after readings that failed. Each of them
moves it forward within the bytes: not at all where no header is left, over the header where the
header or what it announces is at fault, and over the whole array otherwise. So the cursor is a
place in the bytes at any time.

The numbers of a header are from the file, and their product may be of either sign. It is judged
before that many bytes are asked for, so it does not matter what asking for a negative number of
bytes would do.

## Main definitions

* `ArrayCall`, `ArrayCall.cursorAfter` — a reading of an array, and the cursor after several.
* `Cursor.Within` — the cursor is a place in the bytes.
* `readArrayTaking` — the same reading, with its own way to take an integer number of bytes.

## Main results

* `readArray_frame_or_fault`, `cursor_readArray_of_arrayFault` — how far one reading moves the
  cursor.
* `ArrayCall.within_cursorAfter` — where the cursor is after any readings.
* `readArrayTaking_eq` — no negative number of bytes is asked for.
* `ArrayCall.cursor_discipline` — all of it at any time.
-/

namespace SwitchTrace

/-! ### Places in bytes -/

namespace Cursor

variable {c : Cursor} {data : Bytes} {n : Nat}

/-- The place so many bytes further. -/
def skip (c : Cursor) (n : Nat) : Cursor := ⟨c.offset + n, c.rest.drop n⟩

theorem skip_append {offset : Nat} {chunk rest : Bytes} :
    (⟨offset, chunk ++ rest⟩ : Cursor).skip chunk.length = ⟨offset + chunk.length, rest⟩ := by
  rw [skip, List.drop_left]

/-- The cursor is a place in the bytes. -/
structure Within (c : Cursor) (data : Bytes) : Prop where
  offset_le : c.offset ≤ data.length
  rest_eq : c.rest = data.drop c.offset

theorem within_start (data : Bytes) : (start data).Within data := ⟨Nat.zero_le _, rfl⟩

theorem Within.skip (h : c.Within data) (hn : n ≤ c.remaining) : (c.skip n).Within data where
  offset_le := by
    rw [remaining, h.rest_eq, List.length_drop] at hn
    have hle := h.offset_le
    change c.offset + n ≤ data.length
    omega
  rest_eq := by
    change c.rest.drop n = data.drop (c.offset + n)
    rw [h.rest_eq, List.drop_drop]

end Cursor

/-! ### One reading -/

section Reading

variable {α : Type} {layout : Layout α} {c : Cursor} {fault : DecodeFault}

/-- **Where no header is left** the reading is truncated and the cursor stays. -/
theorem readArray_of_remaining_lt (h : c.remaining < ArrayHeader.size) : readArray layout c =
    ⟨.error (.truncated (.arrayHeader layout.array) c.offset ArrayHeader.size c.remaining), c,
      []⟩ := by
  rw [readArray_eq, Cursor.take?_eq_none_iff.mpr h]

/-- **Behind any other fault** the cursor is behind the header. -/
theorem cursor_readArray_of_arrayFault (h : ArrayFault layout.array layout.width c fault)
    (hheader : ArrayHeader.size ≤ c.remaining) :
    (readArray layout c).cursor = c.skip ArrayHeader.size := by
  cases h with
  | shortHeader hrest => exact absurd hrest (Nat.not_lt.mpr hheader)
  | negativeCount hlength hbytes hcount =>
    rw [readArray_eq, ← hlength, take?_append, Cursor.skip_append]
    simp only [readElements, hbytes, hcount, ↓reduceIte]
  | @narrow _ _ _ count _ hlength hbytes hsize =>
    have hcount : ¬ (count : Int) < 0 := Int.not_lt.mpr (Int.natCast_nonneg count)
    rw [readArray_eq, ← hlength, take?_append, Cursor.skip_append]
    simp only [readElements, hbytes, hcount, hsize, ↓reduceIte]
  | @missing offset header body count stride hlength hbytes hstride hbody =>
    have hcount : ¬ (count : Int) < 0 := Int.not_lt.mpr (Int.natCast_nonneg count)
    have hsize : ¬ (stride : Int) < layout.width := Int.not_lt.mpr (Int.ofNat_le.mpr hstride)
    have hneeded : (ArrayHeader.payloadSize ⟨count, stride⟩).toNat = count * stride := rfl
    have htake : (⟨offset + header.length, body⟩ : Cursor).take? (count * stride) = none :=
      Cursor.take?_eq_none_iff.mpr hbody
    rw [readArray_eq, ← hlength, take?_append, Cursor.skip_append]
    simp only [readElements, hbytes, hcount, hsize, ↓reduceIte, hneeded, htake]

/-- **A framed array is read or a fault is reported**, if elements that are long enough can be
read. -/
theorem readArray_frame_or_fault
    (hread : ∀ bs, layout.width ≤ bs.length → ∃ a, layout.read? bs = some a) (c : Cursor) :
    (∃ (f : ArrayFrame layout.width) (as : List α) (tail : Bytes),
      c.rest = f.bytes ++ tail ∧ f.Lists layout.read? as ∧ readArray layout c =
        ⟨.ok as, ⟨c.offset + f.bytes.length, tail⟩, skippedLog layout ⟨f.count, f.stride⟩⟩) ∨
    ∃ fault, ArrayFault layout.array layout.width c fault ∧
      (readArray layout c).outcome = .error fault := by
  obtain ⟨offset, rest⟩ := c
  obtain ⟨f, tail, rfl⟩ | ⟨fault, hfault⟩ :=
    ArrayFrame.exists_or_arrayFault layout.array layout.width offset rest
  · obtain ⟨as, has⟩ := f.exists_lists hread
    exact .inl ⟨f, as, tail, rfl, has, readArray_bytes_append layout f has offset tail⟩
  · exact .inr ⟨fault, hfault, outcome_readArray_of_arrayFault hfault⟩

/-- **The faults of a reading** are those of the bytes that it is given. -/
theorem outcome_readArray_eq_error_iff
    (hread : ∀ bs, layout.width ≤ bs.length → ∃ a, layout.read? bs = some a) :
    (readArray layout c).outcome = .error fault ↔
      ArrayFault layout.array layout.width c fault := by
  refine ⟨fun h => ?_, outcome_readArray_of_arrayFault⟩
  obtain ⟨f, as, tail, -, -, hscan⟩ | ⟨fault', hfault, houtcome⟩ := readArray_frame_or_fault hread c
  · rw [hscan] at h
    cases h
  · rw [houtcome] at h
    cases h
    exact hfault

/-- The cursor moves forward, and not beyond the bytes. -/
theorem exists_skip_readArray
    (hread : ∀ bs, layout.width ≤ bs.length → ∃ a, layout.read? bs = some a) (c : Cursor) :
    ∃ n ≤ c.remaining, (readArray layout c).cursor = c.skip n := by
  by_cases hheader : c.remaining < ArrayHeader.size
  · exact ⟨0, Nat.zero_le _, congrArg Scan.cursor (readArray_of_remaining_lt hheader)⟩
  obtain ⟨f, as, tail, hrest, -, hscan⟩ | ⟨fault, hfault, -⟩ := readArray_frame_or_fault hread c
  · refine ⟨f.bytes.length, ?_, ?_⟩
    · rw [Cursor.remaining, hrest, List.length_append]
      exact Nat.le_add_right _ _
    · rw [hscan, Cursor.skip, hrest, List.drop_left]
  · exact ⟨ArrayHeader.size, Nat.le_of_not_lt hheader,
      cursor_readArray_of_arrayFault hfault (Nat.le_of_not_lt hheader)⟩

end Reading

/-! ### Integer numbers of bytes -/

/-- Reads a framed array as `readArray` does, with its own way to take bytes, of which the number
that the header gives is asked for as it is. -/
def readArrayTaking {α : Type} (take? : Cursor → Int → Option (Bytes × Cursor))
    (layout : Layout α) (c : Cursor) : Scan (List α) :=
  match take? c ArrayHeader.size with
  | none =>
    ⟨.error (.truncated (.arrayHeader layout.array) c.offset ArrayHeader.size c.remaining), c, []⟩
  | some (bytes, body) =>
    let header := ArrayHeader.ofBytes bytes
    if header.count < 0 then ⟨.error (.negativeCount layout.array header.count), body, []⟩
    else if header.elementSize < layout.width then
      ⟨.error (.olderVersion layout.array header.elementSize layout.width), body, []⟩
    else
      match take? body header.payloadSize with
      | none =>
        ⟨.error (.truncated (.elements header.count layout.array) body.offset
          header.payloadSize.toNat body.remaining), body, skippedLog layout header⟩
      | some (payload, rest) =>
        let elements := strides header.elementSize.toNat header.count.toNat payload
        ⟨elements.mapM layout.readElement, rest, skippedLog layout header⟩

/-- **No negative number of bytes is asked for**: what taking one would do does not matter. -/
theorem readArrayTaking_eq {α : Type} {take? : Cursor → Int → Option (Bytes × Cursor)}
    (h : ∀ (c : Cursor) (n : Nat), take? c n = c.take? n) (layout : Layout α) (c : Cursor) :
    readArrayTaking take? layout c = readArray layout c := by
  rw [readArrayTaking, readArray_eq, h]
  cases c.take? ArrayHeader.size with
  | none => rfl
  | some taken =>
    obtain ⟨bytes, body⟩ := taken
    obtain ⟨header, hheader⟩ : ∃ header, ArrayHeader.ofBytes bytes = header := ⟨_, rfl⟩
    by_cases hcount : header.count < 0
    · simp only [readElements, hheader, hcount, ↓reduceIte]
    by_cases hsize : header.elementSize < layout.width
    · simp only [readElements, hheader, hcount, hsize, ↓reduceIte]
    have hneeded : (header.payloadSize.toNat : Int) = header.payloadSize := by
      refine Int.toNat_of_nonneg (Int.mul_nonneg (Int.not_lt.mp hcount) ?_)
      exact Int.le_trans (Int.natCast_nonneg layout.width) (Int.not_lt.mp hsize)
    have htake : take? body header.payloadSize = body.take? header.payloadSize.toNat := by
      rw [← h, hneeded]
    cases htaken : body.take? header.payloadSize.toNat <;>
      simp only [readElements, hheader, hcount, hsize, ↓reduceIte, htake, htaken]

/-! ### Several readings -/

/-- A reading of an array: what its elements are, and what it is called. -/
inductive ArrayCall
  | device (array : String)
  | record (array : String)
deriving DecidableEq, Repr

namespace ArrayCall

/-- The values that the elements stand for. -/
def Element : ArrayCall → Type
  | device _ => Device
  | record _ => Record

/-- What the elements of the array are. -/
def layout : (call : ArrayCall) → Layout call.Element
  | device array => .device array
  | record array => .record array

/-- Reads the array at a place. -/
def scan (call : ArrayCall) (c : Cursor) : Scan (List call.Element) := readArray call.layout c

/-- The cursor after the readings, each of which goes on where the one before it stopped, with or
without a fault. -/
def cursorAfter : List ArrayCall → Cursor → Cursor
  | [], c => c
  | call :: calls, c => cursorAfter calls (call.scan c).cursor

theorem cursorAfter_append (calls more : List ArrayCall) (c : Cursor) :
    cursorAfter (calls ++ more) c = cursorAfter more (cursorAfter calls c) := by
  induction calls generalizing c with
  | nil => rfl
  | cons call calls ih => exact ih _

theorem exists_read? (call : ArrayCall) (bs : Bytes) (h : call.layout.width ≤ bs.length) :
    ∃ a, call.layout.read? bs = some a := by
  cases call with
  | device array => exact Device.exists_ofBytes? h
  | record array => exact Record.exists_ofBytes? h

/-- One reading keeps the cursor within the bytes and does not move it back. -/
theorem within_cursor_scan {c : Cursor} {data : Bytes} (call : ArrayCall) (h : c.Within data) :
    (call.scan c).cursor.Within data ∧ c.offset ≤ (call.scan c).cursor.offset := by
  obtain ⟨n, hn, hcursor⟩ := exists_skip_readArray call.exists_read? c
  rw [scan, hcursor]
  exact ⟨h.skip hn, Nat.le_add_right _ _⟩

/-- **After any readings** the cursor is within the bytes and has not moved back. -/
theorem within_cursorAfter {c : Cursor} {data : Bytes} (calls : List ArrayCall)
    (h : c.Within data) :
    (cursorAfter calls c).Within data ∧ c.offset ≤ (cursorAfter calls c).offset := by
  induction calls generalizing c with
  | nil => exact ⟨h, Nat.le_refl _⟩
  | cons call calls ih =>
    obtain ⟨hscan, hforward⟩ := call.within_cursor_scan h
    obtain ⟨hafter, hrest⟩ := ih hscan
    exact ⟨hafter, Nat.le_trans hforward hrest⟩

/-- **A reading without fault** moves the cursor over the framed array, has as many elements as its
header says, and is the same wherever these bytes lie and whatever follows them. -/
theorem exists_bytes_of_scan {call : ArrayCall} {c : Cursor} {as : List call.Element}
    (h : (call.scan c).outcome = .ok as) : ∃ (bytes : Bytes) (count size : Nat),
      c.rest = bytes ++ (call.scan c).cursor.rest ∧
      ArrayHeader.ofBytes (bytes.take ArrayHeader.size) = ⟨count, size⟩ ∧
      call.layout.width ≤ size ∧ bytes.length = ArrayHeader.size + count * size ∧
      (call.scan c).cursor.offset = c.offset + bytes.length ∧ as.length = count ∧
      ∀ offset rest, call.scan ⟨offset, bytes ++ rest⟩ =
        ⟨.ok as, ⟨offset + bytes.length, rest⟩, (call.scan c).log⟩ := by
  obtain ⟨f, as', tail, hrest, has, hscan⟩ | ⟨fault, -, houtcome⟩ :=
    readArray_frame_or_fault call.exists_read? c
  · have hheader : f.bytes.take ArrayHeader.size = f.header := by
      rw [ArrayFrame.bytes, ← f.length_header, List.take_left]
    rw [scan, hscan] at h ⊢
    cases h
    refine ⟨f.bytes, f.count, f.stride, hrest, ?_, f.width_le, f.length_bytes, rfl,
      has.length_eq.symm, readArray_bytes_append call.layout f has⟩
    rw [hheader, f.ofBytes_header]
  · rw [scan, houtcome] at h
    cases h

/-- **The cursor at any time.** After any readings, failed ones among them, it is a place in the
bytes, and one more reading does not move it back. Where no header is left the reading is truncated
and the cursor stays. Any other fault leaves it behind the header: the faults are a negative number
of elements, too short elements, and too few bytes for them. A reading without fault moves it over
the array, gives as many elements as the header says, and depends on the bytes of the array only. No
negative number of bytes is ever asked for. -/
theorem cursor_discipline (data : Bytes) (calls : List ArrayCall) (call : ArrayCall) :
    let c := cursorAfter calls (.start data)
    let next := call.scan c
    c.offset ≤ data.length ∧ c.rest = data.drop c.offset ∧
      next.cursor = cursorAfter (calls ++ [call]) (.start data) ∧
      c.offset ≤ next.cursor.offset ∧
      (c.remaining < ArrayHeader.size → next.cursor = c ∧
        next.outcome = .error (.truncated (.arrayHeader call.layout.array) c.offset
          ArrayHeader.size c.remaining)) ∧
      (∀ fault, next.outcome = .error fault ↔
        ArrayFault call.layout.array call.layout.width c fault) ∧
      (∀ fault, next.outcome = .error fault → ArrayHeader.size ≤ c.remaining →
        next.cursor = ⟨c.offset + ArrayHeader.size, c.rest.drop ArrayHeader.size⟩) ∧
      (∀ as, next.outcome = .ok as → ∃ (bytes : Bytes) (count size : Nat),
        c.rest = bytes ++ next.cursor.rest ∧
        ArrayHeader.ofBytes (bytes.take ArrayHeader.size) = ⟨count, size⟩ ∧
        call.layout.width ≤ size ∧ bytes.length = ArrayHeader.size + count * size ∧
        next.cursor.offset = c.offset + bytes.length ∧ as.length = count ∧
        ∀ offset rest, call.scan ⟨offset, bytes ++ rest⟩ =
          ⟨.ok as, ⟨offset + bytes.length, rest⟩, next.log⟩) ∧
      ∀ take? : Cursor → Int → Option (Bytes × Cursor),
        (∀ (c : Cursor) (n : Nat), take? c n = c.take? n) →
          readArrayTaking take? call.layout c = next := by
  intro c next
  have hwithin : c.Within data := (within_cursorAfter calls (Cursor.within_start data)).1
  refine ⟨hwithin.offset_le, hwithin.rest_eq, ?_, (call.within_cursor_scan hwithin).2, ?_,
    fun fault => outcome_readArray_eq_error_iff call.exists_read?, ?_,
    fun as => exists_bytes_of_scan, fun take? htake => readArrayTaking_eq htake call.layout c⟩
  · rw [cursorAfter_append]
    rfl
  · intro hshort
    have hnext : next = _ := readArray_of_remaining_lt hshort
    rw [hnext]
    exact ⟨rfl, rfl⟩
  · intro fault houtcome hheader
    exact cursor_readArray_of_arrayFault
      ((outcome_readArray_eq_error_iff call.exists_read?).mp houtcome) hheader

/-- The header of an array with a negative number of elements, an array of one record, and one
byte. -/
def threeArrays : Bytes :=
  [0xFF, 0xFF, 0xFF, 0xFF, 0x18, 0x00, 0x00, 0x00] ++
    [0x01, 0x00, 0x00, 0x00, 0x18, 0x00, 0x00, 0x00] ++ List.replicate 24 0x00 ++ [0x2A]

/-- The second reading begins behind the header of the first and reads the record. The third finds
no header and leaves the cursor where it is. -/
theorem cursor_discipline_threeArrays :
    cursorAfter [.record "first"] (.start threeArrays) = ⟨8, threeArrays.drop 8⟩ ∧
    (∃ (bytes : Bytes) (count size : Nat), threeArrays.drop 8 = bytes ++ [0x2A] ∧
      ArrayHeader.ofBytes (bytes.take ArrayHeader.size) = ⟨count, size⟩ ∧
      bytes.length = ArrayHeader.size + count * size) ∧
    cursorAfter [.record "first", .record "second", .device "third"] (.start threeArrays) =
      ⟨40, [0x2A]⟩ := by
  have hfirst : cursorAfter [.record "first"] (.start threeArrays) = ⟨8, threeArrays.drop 8⟩ := by
    decide +kernel
  have hsecond : cursorAfter [.record "first", .record "second"] (.start threeArrays) =
      ⟨40, [0x2A]⟩ := by
    decide +kernel
  have hrecord : (readArray (.record "second") ⟨8, threeArrays.drop 8⟩).outcome =
      .ok [⟨0, 0, 0, 0, 0⟩] := by
    decide +kernel
  refine ⟨hfirst, ?_, ?_⟩
  · obtain ⟨-, -, hcursor, -, -, -, -, hok, -⟩ :=
      cursor_discipline threeArrays [.record "first"] (.record "second")
    rw [hfirst] at hcursor hok
    obtain ⟨bytes, count, size, hrest, hheader, -, hlength, -⟩ := hok _ hrecord
    rw [hcursor, List.singleton_append, hsecond] at hrest
    exact ⟨bytes, count, size, hrest, hheader, hlength⟩
  · obtain ⟨-, -, hcursor, -, hshort, -⟩ :=
      cursor_discipline threeArrays [.record "first", .record "second"] (.device "third")
    rw [hsecond] at hcursor hshort
    exact hcursor.symm.trans (hshort (by decide)).1

end ArrayCall

end SwitchTrace
