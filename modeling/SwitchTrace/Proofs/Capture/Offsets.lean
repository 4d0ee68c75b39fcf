import SwitchTrace.Proofs.Capture.Canonical

/-!
# Elements field by field

Every field of an element has its own bytes, which begin at a fixed offset and are as many for all
its values. An element that is written with another value in one field therefore has the bytes of
that value there, and all its other bytes are as they were.

The integers of an element and their bytes determine each other. The name of a device does not have
this property: of its field only the bytes before the first NUL are read, and so a field is made
anew as it was only if it is canonical. That a text fills the start of the field and NULs the rest
is not enough, because the text may have a NUL itself.

## Main definitions

* `Overwritten` — bytes that differ in one field only.
* `IntField.Writes` — integers in fields one after the other.
* `Record.Field`, `Device.Field` — the integers of an element, with their formats and offsets.

## Main results

* `IntField.Writes.set` — another integer in one of the fields.
* `Record.exists_encode?_set`, `Device.exists_encode?_set` — one integer is changed.
* `Device.nameSlice_eq_iff` — the name fields that are made anew as they were.
* `elements_read_and_written` — reading and writing elements.
-/

namespace SwitchTrace

/-! ### Bytes that differ in one field -/

/-- The byte strings have one length and differ at most in the given range of places, where the
second one has the bytes `new`. -/
structure Overwritten (offset width : Nat) (new bs bs' : Bytes) : Prop where
  length_eq : bs'.length = bs.length
  inside : slice offset width bs' = new
  outside : ∀ i, i < offset ∨ offset + width ≤ i → bs'[i]? = bs[i]?

namespace Overwritten

variable {width : Nat} {old new : Bytes}

/-- The first field is overwritten. -/
theorem start (hold : old.length = width) (hnew : new.length = width) (rest : Bytes) :
    Overwritten 0 width new (old ++ rest) (new ++ rest) where
  length_eq := by rw [List.length_append, List.length_append, hold, hnew]
  inside := slice_zero_append hnew
  outside i hi := by
    have hbehind : width ≤ i := by omega
    rw [List.getElem?_append_right (hnew ▸ hbehind), List.getElem?_append_right (hold ▸ hbehind),
      hold, hnew]

/-- A field is overwritten behind another one. -/
theorem behind {offset n : Nat} {first bs bs' : Bytes} (h : Overwritten offset width new bs bs')
    (hfirst : first.length = n) : Overwritten (n + offset) width new (first ++ bs) (first ++ bs')
    where
  length_eq := by rw [List.length_append, List.length_append, h.length_eq]
  inside := by rw [slice_append_of_le hfirst (Nat.le_add_right n offset), Nat.add_sub_cancel_left,
    h.inside]
  outside i hi := by
    by_cases hin : i < n
    · rw [List.getElem?_append_left (hfirst ▸ hin), List.getElem?_append_left (hfirst ▸ hin)]
    · have hn : n ≤ i := Nat.le_of_not_lt hin
      rw [List.getElem?_append_right (hfirst ▸ hn), List.getElem?_append_right (hfirst ▸ hn),
        hfirst]
      exact h.outside (i - n) (by omega)

end Overwritten

/-! ### Integers one after the other -/

namespace IntField

/-- The parts are the bytes of the integers in their fields. -/
def Writes (fields : List (IntField × Int)) (parts : List Bytes) : Prop :=
  List.Forall₂ (fun fx part => fx.1.encode? fx.2 = some part) fields parts

/-- The number of bytes of all fields together. -/
def totalWidth : List (IntField × Int) → Nat
  | [] => 0
  | fx :: fields => fx.1.width + totalWidth fields

/-- **Another integer in one field** changes the bytes of this field only. -/
theorem Writes.set {fields : List (IntField × Int)} {parts : List Bytes} (h : Writes fields parts)
    {n : Nat} {f : IntField} {old x : Int} {new : Bytes} (hn : fields[n]? = some (f, old))
    (hnew : f.encode? x = some new) :
    Writes (fields.set n (f, x)) (parts.set n new) ∧
      Overwritten (totalWidth (fields.take n)) f.width new parts.flatten
        (parts.set n new).flatten := by
  induction h generalizing n with
  | nil => cases hn
  | @cons fx part fields parts hpart hparts ih =>
    cases n with
    | zero =>
      obtain rfl := Option.some.inj hn
      exact ⟨.cons hnew hparts, .start (length_of_encode? hpart) (length_of_encode? hnew) _⟩
    | succ n =>
      obtain ⟨hwrites, hover⟩ := ih hn
      exact ⟨.cons hpart hwrites, hover.behind (length_of_encode? hpart)⟩

/-- What holds of the bytes of five integers, part by part. -/
theorem exists_writes_iff {f₁ f₂ f₃ f₄ f₅ : IntField} {x₁ x₂ x₃ x₄ x₅ : Int} {P : Bytes → Prop} :
    (∃ parts, Writes [(f₁, x₁), (f₂, x₂), (f₃, x₃), (f₄, x₄), (f₅, x₅)] parts ∧ P parts.flatten) ↔
      ∃ p₁, f₁.encode? x₁ = some p₁ ∧ ∃ p₂, f₂.encode? x₂ = some p₂ ∧
      ∃ p₃, f₃.encode? x₃ = some p₃ ∧ ∃ p₄, f₄.encode? x₄ = some p₄ ∧
      ∃ p₅, f₅.encode? x₅ = some p₅ ∧ P (p₁ ++ (p₂ ++ (p₃ ++ (p₄ ++ p₅)))) := by
  have hflatten (p₁ p₂ p₃ p₄ p₅ : Bytes) :
      [p₁, p₂, p₃, p₄, p₅].flatten = p₁ ++ (p₂ ++ (p₃ ++ (p₄ ++ p₅))) := by
    simp only [List.flatten_cons, List.flatten_nil, List.append_nil]
  constructor
  · rintro ⟨_, _ | ⟨h₁, _ | ⟨h₂, _ | ⟨h₃, _ | ⟨h₄, _ | ⟨h₅, _ | _⟩⟩⟩⟩⟩, hparts⟩
    rw [hflatten] at hparts
    exact ⟨_, h₁, _, h₂, _, h₃, _, h₄, _, h₅, hparts⟩
  · rintro ⟨_, h₁, _, h₂, _, h₃, _, h₄, _, h₅, hparts⟩
    rw [← hflatten] at hparts
    exact ⟨_, .cons h₁ (.cons h₂ (.cons h₃ (.cons h₄ (.cons h₅ .nil)))), hparts⟩

end IntField

/-! ### Records -/

namespace Record

/-- The fields of a record. -/
inductive Field
  | category
  | kind
  | process
  | timestamp
  | handle
deriving DecidableEq, Repr

namespace Field

def format : Field → IntField
  | .category | .kind => .u16
  | .process => .u32
  | .timestamp => .i64
  | .handle => .u64

/-- The number of bytes before the field. -/
def offset : Field → Nat
  | .category => 0
  | .kind => 2
  | .process => 4
  | .timestamp => 8
  | .handle => 16

end Field

/-- The record with another value in a field. -/
def set (r : Record) (field : Field) (x : Int) : Record :=
  match field with
  | .category => { r with category := x }
  | .kind => { r with kind := x }
  | .process => { r with process := x }
  | .timestamp => { r with timestamp := x }
  | .handle => { r with handle := x }

/-- The integers of a record in their order. -/
def fields (r : Record) : List (IntField × Int) :=
  [(.u16, r.category), (.u16, r.kind), (.u32, r.process), (.i64, r.timestamp), (.u64, r.handle)]

theorem encode?_eq_some_iff_writes {r : Record} {bs : Bytes} :
    r.encode? = some bs ↔ ∃ parts, IntField.Writes r.fields parts ∧ parts.flatten = bs := by
  rw [encode?_eq_some_iff, fields]
  exact (IntField.exists_writes_iff (P := fun all => all = bs)).symm

/-- **A record with one other value** has other bytes in its field only. -/
theorem exists_encode?_set {r : Record} {bs : Bytes} (h : r.encode? = some bs) (field : Field)
    {x : Int} (hx : field.format.Holds x) :
    ∃ new bs', field.format.encode? x = some new ∧ (r.set field x).encode? = some bs' ∧
      Overwritten field.offset field.format.width new bs bs' := by
  obtain ⟨parts, hparts, rfl⟩ := encode?_eq_some_iff_writes.mp h
  obtain ⟨new, hnew⟩ := Option.isSome_iff_exists.mp (IntField.isSome_encode?_iff.mpr hx)
  obtain ⟨place, old, hold, hset, hoffset⟩ : ∃ place old,
      r.fields[place]? = some (field.format, old) ∧
        (r.set field x).fields = r.fields.set place (field.format, x) ∧
        IntField.totalWidth (r.fields.take place) = field.offset := by
    cases field with
    | category => exact ⟨0, _, rfl, rfl, rfl⟩
    | kind => exact ⟨1, _, rfl, rfl, rfl⟩
    | process => exact ⟨2, _, rfl, rfl, rfl⟩
    | timestamp => exact ⟨3, _, rfl, rfl, rfl⟩
    | handle => exact ⟨4, _, rfl, rfl, rfl⟩
  obtain ⟨hwrites, hover⟩ := hparts.set hold hnew
  rw [← hset] at hwrites
  rw [hoffset] at hover
  exact ⟨new, _, hnew, encode?_eq_some_iff_writes.mpr ⟨_, hwrites, rfl⟩, hover⟩

end Record

/-! ### Device descriptors -/

namespace Device

variable {d : Device} {raw bs : Bytes}

/-- The fields of a descriptor that are integers. -/
inductive Field
  | traceError
  | cpuStart
  | gpuStart
  | cpuEnd
  | gpuEnd
deriving DecidableEq, Repr

namespace Field

def format : Field → IntField
  | .traceError => .u8
  | .cpuStart | .gpuStart | .cpuEnd | .gpuEnd => .i64

/-- The number of bytes before the field. -/
def offset : Field → Nat
  | .traceError => 255
  | .cpuStart => 256
  | .gpuStart => 264
  | .cpuEnd => 272
  | .gpuEnd => 280

end Field

/-- The descriptor with another value in a field. -/
def set (d : Device) (field : Field) (x : Int) : Device :=
  match field with
  | .traceError => { d with traceError := x }
  | .cpuStart => { d with cpuStart := x }
  | .gpuStart => { d with gpuStart := x }
  | .cpuEnd => { d with cpuEnd := x }
  | .gpuEnd => { d with gpuEnd := x }

/-- The integers of a descriptor in their order. -/
def fields (d : Device) : List (IntField × Int) :=
  [(.u8, d.traceError), (.i64, d.cpuStart), (.i64, d.gpuStart), (.i64, d.cpuEnd), (.i64, d.gpuEnd)]

/-- Identifier and name come before the integers. -/
theorem encode?_eq_some_iff_writes : d.encode? = some bs ↔ ∃ parts,
    IntField.Writes d.fields parts ∧ d.uuid.bytes ++ (nameField d.name ++ parts.flatten) = bs := by
  rw [encode?_eq_some_iff, fields]
  exact (IntField.exists_writes_iff (P := fun all =>
    d.uuid.bytes ++ (nameField d.name ++ all) = bs)).symm

/-- **A descriptor with one other integer** has other bytes in its field only. -/
theorem exists_encode?_set (h : d.encode? = some bs) (field : Field) {x : Int}
    (hx : field.format.Holds x) :
    ∃ new bs', field.format.encode? x = some new ∧ (d.set field x).encode? = some bs' ∧
      Overwritten field.offset field.format.width new bs bs' := by
  obtain ⟨parts, hparts, rfl⟩ := encode?_eq_some_iff_writes.mp h
  obtain ⟨new, hnew⟩ := Option.isSome_iff_exists.mp (IntField.isSome_encode?_iff.mpr hx)
  obtain ⟨place, old, hold, hset, hoffset⟩ : ∃ place old,
      d.fields[place]? = some (field.format, old) ∧
        (d.set field x).fields = d.fields.set place (field.format, x) ∧
        16 + (239 + IntField.totalWidth (d.fields.take place)) = field.offset := by
    cases field with
    | traceError => exact ⟨0, _, rfl, rfl, rfl⟩
    | cpuStart => exact ⟨1, _, rfl, rfl, rfl⟩
    | gpuStart => exact ⟨2, _, rfl, rfl, rfl⟩
    | cpuEnd => exact ⟨3, _, rfl, rfl, rfl⟩
    | gpuEnd => exact ⟨4, _, rfl, rfl, rfl⟩
  obtain ⟨hwrites, hover⟩ := hparts.set hold hnew
  have hbehind := (hover.behind (length_nameField d.name)).behind d.uuid.length_eq
  have huuid : (d.set field x).uuid = d.uuid := by cases field <;> rfl
  have hname : (d.set field x).name = d.name := by cases field <;> rfl
  rw [← hset] at hwrites
  rw [← hoffset]
  refine ⟨new, _, hnew, encode?_eq_some_iff_writes.mpr ⟨_, hwrites, rfl⟩, ?_⟩
  rw [huuid, hname]
  exact hbehind

/-- A descriptor with another identifier has other bytes in its field only. -/
theorem exists_encode?_setUuid (h : d.encode? = some bs) (uuid : Uuid) :
    ∃ bs', { d with uuid }.encode? = some bs' ∧ Overwritten 0 16 uuid.bytes bs bs' := by
  obtain ⟨parts, hparts, rfl⟩ := encode?_eq_some_iff_writes.mp h
  exact ⟨_, encode?_eq_some_iff_writes.mpr ⟨parts, hparts, rfl⟩,
    .start d.uuid.length_eq uuid.length_eq _⟩

/-- A descriptor with another name has other bytes in its field only. -/
theorem exists_encode?_rename (h : d.encode? = some bs) (name : String) :
    ∃ bs', { d with name }.encode? = some bs' ∧ Overwritten 16 239 (nameField name) bs bs' := by
  obtain ⟨parts, hparts, rfl⟩ := encode?_eq_some_iff_writes.mp h
  exact ⟨_, encode?_eq_some_iff_writes.mpr ⟨parts, hparts, rfl⟩,
    (Overwritten.start (length_nameField d.name) (length_nameField name) _).behind d.uuid.length_eq⟩

/-- **The name fields that are made anew as they were** are the canonical ones. -/
theorem nameSlice_eq_iff (h : ofBytes? raw = some d) (hbs : d.encode? = some bs) :
    nameSlice bs = nameSlice raw ↔ CanonicalName (nameSlice raw) := by
  have hname := name_of_ofBytes? h
  rw [nameSlice_of_encode? hbs, hname]
  refine ⟨fun heq => ?_, nameField_fieldName⟩
  rw [← heq]
  exact canonicalName_nameField (nul_notMem_fieldName _)

/-- A descriptor that is read is written with its identifier and its integers as they were. -/
theorem slices_of_encode? (hlength : width ≤ raw.length) (h : ofBytes? raw = some d)
    (hbs : d.encode? = some bs) :
    slice 0 16 bs = slice 0 16 raw ∧ slice 255 33 bs = slice 255 33 raw := by
  rw [width] at hlength
  have huuid : (raw.take Uuid.size).length = 16 := List.length_take_of_le (by
    rw [Uuid.size]
    omega)
  have hnumbers : (slice 255 33 raw).length = 33 := length_slice (by omega)
  rw [encode?_of_ofBytes? h, Option.some.injEq] at hbs
  subst hbs
  refine ⟨slice_zero_append huuid, ?_⟩
  rw [slice_append_of_le huuid (by decide), slice_append_of_le (length_nameField _) (by decide)]
  exact slice_zero_self hnumbers

/-- The bytes of a descriptor whose name field holds a text with a NUL inside. -/
def nulInside : Bytes :=
  List.replicate 16 0 ++ (padded nameCapacity [0x41, 0x00, 0x42] ++ List.replicate 33 0)

theorem length_nulField : (padded nameCapacity [0x41, 0x00, 0x42]).length = 239 := by
  rw [padded, List.length_append, List.length_replicate]
  rfl

theorem length_nulInside : nulInside.length = width := by
  rw [nulInside, List.length_append, List.length_append, List.length_replicate, length_nulField,
    List.length_replicate]
  rfl

theorem nameSlice_nulInside : nameSlice nulInside = padded nameCapacity [0x41, 0x00, 0x42] := by
  rw [nameSlice, nulInside, slice_append_of_le List.length_replicate (by decide)]
  exact slice_zero_append length_nulField

/-- Behind a text there are only NULs in its field. -/
theorem getElem?_padded {n i : Nat} {known : Bytes} (hi : known.length ≤ i) (hn : i < n) :
    (padded n known)[i]? = some 0 := by
  rw [padded, List.getElem?_append_right hi, List.getElem?_replicate, if_pos (by omega)]

/-- The third byte is no NUL and the second one is. -/
theorem not_canonicalName_nulInside : ¬ CanonicalName (nameSlice nulInside) := by
  rintro ⟨known, name, -, -, hnul, hfield⟩
  rw [nameSlice_nulInside] at hfield
  by_cases hlength : known.length ≤ 2
  · have hthird := getElem?_padded hlength (by decide : 2 < nameCapacity)
    rw [← hfield, padded, List.getElem?_append_left (by decide)] at hthird
    exact absurd hthird (by decide)
  · have hsecond : known[1]? = some 0 := by
      rw [← List.getElem?_append_left (by omega), ← padded, ← hfield, padded,
        List.getElem?_append_left (by decide)]
      rfl
    exact hnul (List.mem_of_getElem? hsecond)

/-- **A NUL inside of a name.** The name field may hold a text that leaves room for a NUL, and NULs
behind it, and nevertheless not be made anew as it was: the text was `A`, NUL, `B`. -/
theorem nameSlice_ne_nulInside : ∃ d bs, ofBytes? nulInside = some d ∧ d.encode? = some bs ∧
    (∃ known name, Utf8.decode known = .ok name ∧ known.length ≤ nameCapacity - 1 ∧
      nameSlice nulInside = padded nameCapacity known) ∧
    nameSlice bs ≠ nameSlice nulInside := by
  obtain ⟨d, hd⟩ := exists_ofBytes? (Nat.le_of_eq length_nulInside.symm)
  refine ⟨d, _, hd, encode?_of_ofBytes? hd, ?_, fun heq => ?_⟩
  · refine ⟨[0x41, 0x00, 0x42], "A\x00B", ?_, by decide, nameSlice_nulInside⟩
    exact Utf8.decode_eq_ok_iff.mpr (by decide)
  · exact not_canonicalName_nulInside ((nameSlice_eq_iff hd (encode?_of_ofBytes? hd)).mp heq)

end Device

/-- **Elements, read and written.** As many bytes as a record has are read as a record, which is
written as them; and a record whose numbers fit is written as so many bytes, and read from them as
it was. As many bytes as a descriptor has are read as a descriptor, whose name has no NUL, and it is
written as so many bytes again; identifier and integers have the same bytes as before, and the name
has exactly if its field was well-formed UTF-8 without NUL, at least one byte shorter than the
field, and then NULs only. Elements with another value in one field have other bytes in this field
only. -/
theorem elements_read_and_written :
    (∀ raw : Bytes, 24 ≤ raw.length →
      ∃ r, Record.ofBytes? raw = some r ∧ r.encode? = some (raw.take 24)) ∧
    (∀ r : Record, r.Encodable →
      ∃ bs, r.encode? = some bs ∧ bs.length = 24 ∧ Record.ofBytes? bs = some r) ∧
    (∀ (r : Record) bs (field : Record.Field) x, r.encode? = some bs → field.format.Holds x →
      ∃ new bs', field.format.encode? x = some new ∧ (r.set field x).encode? = some bs' ∧
        Overwritten field.offset field.format.width new bs bs') ∧
    (∀ raw : Bytes, 288 ≤ raw.length →
      ∃ d bs, Device.ofBytes? raw = some d ∧ '\x00' ∉ d.name.toList ∧ d.encode? = some bs ∧
        bs.length = 288 ∧ slice 0 16 bs = slice 0 16 raw ∧ slice 255 33 bs = slice 255 33 raw ∧
        (slice 16 239 bs = slice 16 239 raw ↔ Device.CanonicalName (slice 16 239 raw))) ∧
    (∀ (d : Device) bs (field : Device.Field) x, d.encode? = some bs → field.format.Holds x →
      ∃ new bs', field.format.encode? x = some new ∧ (d.set field x).encode? = some bs' ∧
        Overwritten field.offset field.format.width new bs bs') ∧
    ∀ (d : Device) bs, d.encode? = some bs →
      (∀ uuid, ∃ bs', { d with uuid }.encode? = some bs' ∧ Overwritten 0 16 uuid.bytes bs bs') ∧
      ∀ name, ∃ bs', { d with name }.encode? = some bs' ∧
        Overwritten 16 239 (Device.nameField name) bs bs' := by
  refine ⟨fun raw h => ?_, fun r h => ?_,
    fun r bs field x h hx => Record.exists_encode?_set h field hx, fun raw h => ?_,
    fun d bs field x h hx => Device.exists_encode?_set h field hx,
    fun d bs h => ⟨Device.exists_encode?_setUuid h, Device.exists_encode?_rename h⟩⟩
  · obtain ⟨r, hr⟩ := Record.exists_ofBytes? h
    exact ⟨r, hr, Record.encode?_of_ofBytes? hr⟩
  · obtain ⟨bs, hbs⟩ := Option.isSome_iff_exists.mp (Record.isSome_encode?_iff.mpr h)
    exact ⟨bs, hbs, Record.length_of_encode? hbs, Record.ofBytes?_of_encode? hbs⟩
  · obtain ⟨d, hd⟩ := Device.exists_ofBytes? h
    have hbs := Device.encode?_of_ofBytes? hd
    have hnul : '\x00' ∉ d.name.toList := by
      rw [Device.name_of_ofBytes? hd]
      exact Device.nul_notMem_fieldName _
    obtain ⟨huuid, hnumbers⟩ := Device.slices_of_encode? h hd hbs
    exact ⟨d, _, hd, hnul, hbs, Device.length_of_encode? hbs, huuid, hnumbers,
      Device.nameSlice_eq_iff hd hbs⟩

/-- The record with the greatest number in every field, and the least time. -/
def Record.extreme : Record :=
  ⟨65535, 65535, 4294967295, -9223372036854775808, 18446744073709551615⟩

/-- Bytes of a record are read with one more behind them. The extreme record is read back, and only
eight bytes change if its time becomes the greatest one. All other bytes of a descriptor of NULs are
kept when its error is changed, or its name, or its identifier. -/
theorem elements_read_and_written_extreme :
    (∃ r, Record.ofBytes? (List.replicate 25 0xFF) = some r ∧
      r.encode? = some ((List.replicate 25 0xFF).take 24)) ∧
    (∃ bs, Record.extreme.encode? = some bs ∧ bs.length = 24 ∧
      Record.ofBytes? bs = some Record.extreme ∧
      ∃ new bs', (Record.extreme.set .timestamp 9223372036854775807).encode? = some bs' ∧
        Overwritten 8 8 new bs bs') ∧
    ∃ d bs, Device.ofBytes? (List.replicate 288 0) = some d ∧ d.encode? = some bs ∧
      slice 255 33 bs = slice 255 33 (List.replicate 288 0) ∧
      (∃ new bs', (d.set .traceError 255).encode? = some bs' ∧ Overwritten 255 1 new bs bs') ∧
      (∃ bs', { d with uuid := .zero }.encode? = some bs' ∧
        Overwritten 0 16 Uuid.zero.bytes bs bs') ∧
      ∃ bs', { d with name := "GPU" }.encode? = some bs' ∧
        Overwritten 16 239 (Device.nameField "GPU") bs bs' := by
  obtain ⟨hread, hwritten, hset, hdevice, hdeviceSet, hothers⟩ := elements_read_and_written
  obtain ⟨bs, hbs, hlength, hback⟩ := hwritten .extreme (by decide)
  obtain ⟨new, bs', -, hbs', hover⟩ :=
    hset .extreme bs .timestamp 9223372036854775807 hbs (by decide)
  obtain ⟨d, ds, hd, -, hds, -, -, hnumbers, -⟩ := hdevice (List.replicate 288 0)
    (Nat.le_of_eq List.length_replicate.symm)
  obtain ⟨error, ds', -, hds', herror⟩ := hdeviceSet d ds .traceError 255 hds (by decide)
  exact ⟨hread _ (by decide), ⟨bs, hbs, hlength, hback, new, bs', hbs', hover⟩,
    d, ds, hd, hds, hnumbers, ⟨error, ds', hds', herror⟩, (hothers d ds hds).1 .zero,
    (hothers d ds hds).2 "GPU"⟩

end SwitchTrace
