import SwitchTrace.Capture.Given
import SwitchTrace.Proofs.Capture.Limits
import SwitchTrace.Proofs.Text.Given

/-!
# Which given captures have bytes

The bytes of a capture are made from its start to its end, and the first thing that cannot be
written decides how that fails: a number or a count that does not fit, or a name with a surrogate.
A surrogate in the name of a device is met after the number of devices and the descriptors before
it, and before the numbers of its own descriptor and all records. Without surrogates the given
capture is a capture, with the same bytes.

## Main definitions

* `GivenCapture.HasSurrogate`, `GivenCapture.unnamed` — surrogates in names, and all the rest.
* `GivenCapture.MeetsSurrogate` — a name with a surrogate is the first that cannot be written.

## Main results

* `GivenCapture.encode_ofCapture` — captures whose names are texts.
* `GivenCapture.encode_eq_surrogate_iff`, `GivenCapture.encode_eq_outOfRange_iff`,
  `GivenCapture.exists_encode_iff` — the three outcomes.
* `GivenCapture.length_of_encode` — the number of bytes.
-/

namespace SwitchTrace

namespace EncodeFault

variable {α β : Type}

theorem unlessFits_eq_ok_iff {o : Option α} {a : α} : unlessFits o = .ok a ↔ o = some a := by
  cases o <;> simp [unlessFits]

theorem unlessFits_eq_error_iff {o : Option α} {fault : EncodeFault} :
    unlessFits o = .error fault ↔ o = none ∧ fault = .outOfRange := by
  cases o <;> simp [unlessFits, eq_comm]

theorem unlessFits_pure (a : α) : unlessFits (pure a) = pure a := rfl

theorem unlessFits_bind (o : Option α) (f : α → Option β) :
    unlessFits (o >>= f) = unlessFits o >>= fun a => unlessFits (f a) := by
  cases o <;> rfl

theorem unlessFits_mapM (f : α → Option β) (as : List α) :
    unlessFits (as.mapM f) = as.mapM fun a => unlessFits (f a) := by
  induction as with
  | nil => rfl
  | cons a as ih =>
    simp only [List.mapM_cons, unlessFits_bind, unlessFits_pure, ih]

end EncodeFault

open EncodeFault (unlessFits)

/-! ### Descriptors -/

namespace GivenDevice

variable {d : GivenDevice} {fault : EncodeFault}

@[simp] theorem named_ofDevice (d : Device) : (ofDevice d).named d.name = d := rfl

/-- The numbers of a descriptor fit whatever its name is. -/
theorem named_encodable_iff (d : GivenDevice) (name : String) :
    (d.named name).Encodable ↔ (d.named "").Encodable := Iff.rfl

theorem encode_ofDevice (d : Device) : (ofDevice d).encode = unlessFits d.encode? := by
  have hname : (ofDevice d).name.text? = some d.name := GivenText.text?_ofText d.name
  simp only [encode, hname, named_ofDevice]

/-- A descriptor fails at its name just if that has a surrogate. -/
theorem encode_eq_surrogate_iff {name : GivenText} :
    d.encode = .error (.surrogate name) ↔ d.name.HasSurrogate ∧ d.name = name := by
  rw [← GivenText.text?_eq_none_iff, encode]
  cases d.name.text? with
  | none => simp
  | some s => simp [EncodeFault.unlessFits_eq_error_iff]

/-- A descriptor whose name has no surrogate fails just if its numbers do not fit. -/
theorem encode_eq_outOfRange_iff :
    d.encode = .error .outOfRange ↔ ¬ d.name.HasSurrogate ∧ ¬ (d.named "").Encodable := by
  rw [← GivenText.text?_eq_none_iff, encode]
  cases d.name.text? with
  | none => simp
  | some s =>
    rw [← d.named_encodable_iff s, ← Device.isSome_encode?_iff, Option.not_isSome_iff_eq_none]
    simp [EncodeFault.unlessFits_eq_error_iff]

/-- A descriptor has bytes just if its name has no surrogate and its numbers fit. -/
theorem exists_encode_iff :
    (∃ bs, d.encode = .ok bs) ↔ ¬ d.name.HasSurrogate ∧ (d.named "").Encodable := by
  rw [← GivenText.text?_eq_none_iff, encode]
  cases d.name.text? with
  | none => simp
  | some s =>
    rw [← d.named_encodable_iff s, ← Device.isSome_encode?_iff, Option.isSome_iff_exists]
    simp [EncodeFault.unlessFits_eq_ok_iff]

end GivenDevice

/-! ### Captures -/

namespace GivenCapture

variable {c : GivenCapture} {name : GivenText} {bs : Bytes}

/-- The name of a device has a surrogate. -/
def HasSurrogate (c : GivenCapture) : Prop := ∃ t ∈ c.tracks, t.device.name.HasSurrogate

/-- The capture without the names. -/
def unnamed (c : GivenCapture) : Capture :=
  ⟨c.tracks.map fun t => ⟨t.device.named "", t.records⟩⟩

/-- The first thing of the capture that cannot be written is this name of a device, which has a
surrogate: the devices can be counted, and the descriptors before it can be written. -/
structure MeetsSurrogate (c : GivenCapture) (name : GivenText) : Prop where
  count_lt : c.tracks.length < 2147483648
  exists_track : ∃ before t after, c.tracks = before ++ t :: after ∧
    (∀ u ∈ before, ¬ u.device.name.HasSurrogate ∧ (u.device.named "").Encodable) ∧
    t.device.name.HasSurrogate ∧ t.device.name = name

/-- A name at which writing stops is a name with a surrogate. -/
theorem MeetsSurrogate.hasSurrogate (h : c.MeetsSurrogate name) : c.HasSurrogate := by
  obtain ⟨before, t, after, htracks, -, hname, -⟩ := h.exists_track
  exact ⟨t, htracks ▸ List.mem_append_right before List.mem_cons_self, hname⟩

/-- The bytes of a capture whose names are texts are those of the capture. -/
theorem encode_ofCapture (c : Capture) : (ofCapture c).encode = unlessFits c.encode? := by
  simp only [encode, ofCapture, Capture.encode?, writeArray?, EncodeFault.unlessFits_bind,
    EncodeFault.unlessFits_mapM, EncodeFault.unlessFits_pure, List.mapM_map, Function.comp_def,
    GivenDevice.encode_ofDevice, Capture.devices, List.length_map, bind_assoc, pure_bind]

/-- A given capture without surrogates is a capture. -/
theorem exists_ofCapture (h : ¬ c.HasSurrogate) : ∃ d, c = ofCapture d := by
  have htrack : ∀ t ∈ c.tracks, ∃ u : Track, t = ⟨.ofDevice u.device, u.records⟩ := by
    intro t ht
    obtain ⟨s, hs⟩ := Option.ne_none_iff_exists'.mp fun hnone =>
      h ⟨t, ht, GivenText.text?_eq_none_iff.mp hnone⟩
    refine ⟨⟨t.device.named s, t.records⟩, ?_⟩
    rw [GivenDevice.ofDevice, GivenDevice.named, ← GivenText.text?_eq_some_iff.mp hs]
  obtain ⟨us, hus⟩ := exists_forall₂_of_forall htrack
  rw [← List.forall₂_map_right_iff, List.forall₂_eq_eq_eq] at hus
  exact ⟨⟨us⟩, congrArg GivenCapture.mk hus⟩

theorem not_hasSurrogate_ofCapture (d : Capture) : ¬ (ofCapture d).HasSurrogate := by
  rintro ⟨t, ht, hname⟩
  obtain ⟨u, -, rfl⟩ := List.mem_map.mp ht
  exact GivenText.not_hasSurrogate_ofText _ hname

/-- Names make no difference to what overflows. -/
theorem overflows_unnamed_ofCapture (d : Capture) :
    (ofCapture d).unnamed.Overflows ↔ d.Overflows := by
  rw [Capture.overflows_iff, Capture.overflows_iff, unnamed, ofCapture, Capture.Encodable,
    Capture.Encodable]
  simp only [List.map_map, List.forall_mem_map, List.length_map]
  exact Iff.rfl

/-- The header of the array of descriptors is written just if the devices can be counted. -/
theorem exists_header_iff {n : Nat} :
    (∃ bs, ArrayHeader.encode? ⟨n, Device.width⟩ = some bs) ↔ n < 2147483648 := by
  simp only [ArrayHeader.encode?_natCast_eq_some_iff, Capture.holds_i32_natCast_iff,
    exists_and_left, exists_eq', and_true]
  exact and_iff_left (by decide)

/-- Writing fails at the number of devices, at the first descriptor that cannot be written, or at
the first array of records that cannot be written. -/
theorem encode_eq_error_iff {fault : EncodeFault} : c.encode = .error fault ↔
    2147483648 ≤ c.tracks.length ∧ fault = .outOfRange ∨ c.tracks.length < 2147483648 ∧
      ((c.tracks.mapM fun t => t.device.encode) = .error fault ∨
        (∃ ds, (c.tracks.mapM fun t => t.device.encode) = .ok ds) ∧
          (c.tracks.mapM fun t =>
            unlessFits (writeArray? Record.width Record.encode? t.records)) = .error fault) := by
  have hheader : ArrayHeader.encode? ⟨c.tracks.length, Device.width⟩ = none ↔
      2147483648 ≤ c.tracks.length := by
    rw [← Nat.not_lt, ← exists_header_iff, Option.eq_none_iff_forall_ne_some, not_exists]
  simp only [encode, bind_eq_error_iff, EncodeFault.unlessFits_eq_error_iff,
    EncodeFault.unlessFits_eq_ok_iff, pure_eq_error_iff, and_false, exists_false, or_false,
    exists_and_right, exists_header_iff, hheader]

/-- **Writing stops at a name** just if that is the first thing that cannot be written. -/
theorem encode_eq_surrogate_iff :
    c.encode = .error (.surrogate name) ↔ c.MeetsSurrogate name := by
  have hrecords : ¬ ((c.tracks.mapM fun t =>
      unlessFits (writeArray? Record.width Record.encode? t.records)) =
        .error (.surrogate name)) := by
    rw [mapM_eq_error_iff]
    rintro ⟨_, _, _, -, -, h⟩
    exact nomatch (EncodeFault.unlessFits_eq_error_iff.mp h).2
  simp only [encode_eq_error_iff, reduceCtorEq, and_false, false_or, hrecords, or_false,
    mapM_eq_error_iff, GivenDevice.exists_encode_iff, GivenDevice.encode_eq_surrogate_iff]
  exact ⟨fun ⟨hcount, h⟩ => ⟨hcount, h⟩, fun h => ⟨h.count_lt, h.exists_track⟩⟩

/-- A number that keeps a capture from being written is one that overflows. -/
theorem overflows_of_encode (h : c.encode = .error .outOfRange) : c.unnamed.Overflows := by
  rw [Capture.overflows_iff]
  rintro ⟨htracks, hcount⟩
  rw [unnamed, List.length_map, Capture.holds_i32_natCast_iff] at hcount
  simp only [unnamed, List.forall_mem_map] at htracks
  obtain ⟨hmany, -⟩ | ⟨-, h | ⟨-, h⟩⟩ := encode_eq_error_iff.mp h
  · exact Nat.not_lt.mpr hmany hcount
  · obtain ⟨before, t, after, htrack, -, h⟩ := mapM_eq_error_iff.mp h
    have ht : t ∈ c.tracks := htrack ▸ List.mem_append_right before List.mem_cons_self
    exact (GivenDevice.encode_eq_outOfRange_iff.mp h).2 (htracks t ht).1
  · obtain ⟨before, t, after, htrack, -, h⟩ := mapM_eq_error_iff.mp h
    have ht : t ∈ c.tracks := htrack ▸ List.mem_append_right before List.mem_cons_self
    obtain ⟨-, hrecords, hlength⟩ := htracks t ht
    have hsome := isSome_writeArray? hlength (by decide : IntField.i32.Holds Record.width)
      fun r hr => Record.isSome_encode?_iff.mpr (hrecords r hr)
    rw [(EncodeFault.unlessFits_eq_error_iff.mp h).1] at hsome
    cases hsome

/-- **A capture is written** just if no name has a surrogate and nothing overflows. -/
theorem exists_encode_iff :
    (∃ bs, c.encode = .ok bs) ↔ ¬ c.HasSurrogate ∧ ¬ c.unnamed.Overflows := by
  constructor
  · rintro ⟨bs, h⟩
    have hname : ¬ c.HasSurrogate := by
      obtain ⟨header, -, h⟩ := bind_eq_ok_iff.mp h
      obtain ⟨descriptors, hdescriptors, -⟩ := bind_eq_ok_iff.mp h
      rintro ⟨t, ht, hsurrogate⟩
      obtain ⟨bs, -, hbs⟩ := exists_of_mem_forall₂ (mapM_eq_ok_iff.mp hdescriptors).flip t ht
      exact (GivenDevice.exists_encode_iff.mp ⟨bs, hbs⟩).1 hsurrogate
    obtain ⟨d, rfl⟩ := exists_ofCapture hname
    rw [encode_ofCapture, EncodeFault.unlessFits_eq_ok_iff] at h
    rw [overflows_unnamed_ofCapture, ← Capture.encode?_eq_none_iff, h]
    exact ⟨hname, nofun⟩
  · rintro ⟨hname, hfits⟩
    obtain ⟨d, rfl⟩ := exists_ofCapture hname
    rw [overflows_unnamed_ofCapture, ← Capture.encode?_eq_none_iff, ← ne_eq,
      Option.ne_none_iff_exists'] at hfits
    simpa only [encode_ofCapture, EncodeFault.unlessFits_eq_ok_iff] using hfits

/-- **A number keeps a capture from being written** just if one overflows and no surrogate is met
before. -/
theorem encode_eq_outOfRange_iff :
    c.encode = .error .outOfRange ↔
      c.unnamed.Overflows ∧ ∀ name, ¬ c.MeetsSurrogate name := by
  constructor
  · intro h
    refine ⟨overflows_of_encode h, fun name hname => ?_⟩
    rw [encode_eq_surrogate_iff.mpr hname] at h
    cases h
  · rintro ⟨hoverflows, hmeets⟩
    cases h : c.encode with
    | ok bs => exact absurd hoverflows (exists_encode_iff.mp ⟨bs, h⟩).2
    | error fault =>
      cases fault with
      | outOfRange => rfl
      | surrogate name => exact absurd (encode_eq_surrogate_iff.mp h) (hmeets name)

/-- **The number of bytes of a capture** depends on the numbers of its elements only. -/
theorem length_of_encode (h : c.encode = .ok bs) : bs.length =
    16 + 288 * c.tracks.length + (c.tracks.map fun t => 8 + 24 * t.records.length).sum := by
  obtain ⟨d, rfl⟩ := exists_ofCapture (exists_encode_iff.mp ⟨bs, h⟩).1
  rw [encode_ofCapture, EncodeFault.unlessFits_eq_ok_iff] at h
  rw [Capture.length_of_encode? h, ofCapture, List.length_map, List.map_map]
  rfl

end GivenCapture

end SwitchTrace
