import SwitchTrace.Proofs.Capture.Canonical
import SwitchTrace.Proofs.Text.Cut

/-!
# Names in their fields

A name is cut at the last character that fits into its field with a NUL behind it. A writer that
cuts its bytes instead, and drops what no longer makes a character, comes to the same name, wherever
the cut falls. What is left is the longest such start, so that cutting it again changes nothing, and
a descriptor with a name that was cut is read back as it is.

## Main results

* `Device.storedName_eq_cut` — a name that is cut at its bytes.
* `Device.prefix_storedName` — no longer start of a name fits.
* `Device.storedName_longest` — cut names, and how they are written and read.
-/

namespace SwitchTrace.Device

variable {name : String}

/-- A name is cut at its bytes if there are too many of them. -/
theorem storedName_eq_cut (name : String) :
    storedName name = if Utf8.size name < nameCapacity then name
      else Utf8.decodeIgnoring ((Utf8.encode name).take (nameCapacity - 1)) := by
  split
  · next hfit => exact storedName_eq_self (Nat.le_sub_one_of_lt hfit)
  · rw [Utf8.decodeIgnoring_take_encode, storedName]

/-- **No longer start of a name fits.** -/
theorem prefix_storedName {start : String} (hstart : start.toList <+: name.toList)
    (hfit : Utf8.size start ≤ nameCapacity - 1) : start.toList <+: (storedName name).toList := by
  rw [storedName, Utf8.truncate, String.toList_ofList]
  exact Utf8.prefix_truncateChars hstart hfit

theorem storedName_storedName (name : String) :
    storedName (storedName name) = storedName name :=
  storedName_eq_self (size_storedName_le name)

/-- Whatever its name is, a descriptor whose numbers fit is written, with a NUL in the field of the
name. -/
theorem exists_nameSlice_eq {d : Device} (h : d.Encodable) :
    ∃ bs k, d.encode? = some bs ∧ (nameSlice bs).length = nameCapacity ∧
      nameSlice bs = Utf8.encode (storedName d.name) ++ List.replicate (k + 1) 0 := by
  obtain ⟨bs, hbs⟩ := Option.isSome_iff_exists.mp (isSome_encode?_iff.mpr h)
  obtain ⟨k, hk⟩ := exists_nameField_eq d.name
  refine ⟨bs, k, hbs, ?_⟩
  rw [nameSlice_of_encode? hbs]
  exact ⟨length_nameField d.name, hk⟩

/-- A descriptor with a name that was cut is read back as it is, unless there is a NUL in it. -/
theorem exists_ofBytes?_setName {d : Device} (h : d.Encodable)
    (hnul : '\x00' ∉ (storedName name).toList) :
    ∃ bs, (d.setName name).encode? = some bs ∧ ofBytes? bs = some (d.setName name) := by
  have hset : (d.setName name).Encodable := h
  have hstored : (d.setName name).stored = d.setName name :=
    stored_eq_self hnul (size_storedName_le name)
  obtain ⟨bs, hbs⟩ := Option.isSome_iff_exists.mp (isSome_encode?_iff.mpr hset)
  exact ⟨bs, hbs, hstored ▸ ofBytes?_of_encode? hbs⟩

/-- **A name is cut to its longest start that fits.** Of any name, the first 238 bytes are left, and
of these the whole characters. They are a start of the name, and as long as it can be with these
bytes. It is all of the name exactly if this fits, and so nothing more is lost by cutting again.
Every descriptor whose numbers fit is written with at least one NUL behind the bytes of this start,
inside the field of 239 bytes; and after its name has been cut it is read back as it is, if there
is no NUL in the name. -/
theorem storedName_longest (name : String) :
    storedName name = (if Utf8.size name < nameCapacity then name
      else Utf8.decodeIgnoring ((Utf8.encode name).take (nameCapacity - 1))) ∧
    (storedName name).toList <+: name.toList ∧
    Utf8.size (storedName name) ≤ nameCapacity - 1 ∧
    (∀ start : String, start.toList <+: name.toList → Utf8.size start ≤ nameCapacity - 1 →
      start.toList <+: (storedName name).toList) ∧
    (storedName name = name ↔ Utf8.size name ≤ nameCapacity - 1) ∧
    storedName (storedName name) = storedName name ∧
    ∀ d : Device, d.Encodable →
      (∃ bs k, { d with name }.encode? = some bs ∧ (nameSlice bs).length = nameCapacity ∧
        nameSlice bs = Utf8.encode (storedName name) ++ List.replicate (k + 1) 0) ∧
      ('\x00' ∉ (storedName name).toList →
        ∃ bs, (d.setName name).encode? = some bs ∧ ofBytes? bs = some (d.setName name)) := by
  refine ⟨storedName_eq_cut name, storedName_isPrefix name, size_storedName_le name,
    fun start => prefix_storedName, storedName_eq_self_iff, storedName_storedName name,
    fun d hd => ⟨?_, exists_ofBytes?_setName hd⟩⟩
  have hnamed : Encodable { d with name } := hd
  exact exists_nameSlice_eq hnamed

/-- A character of one byte, and so many of two bytes. -/
def accented (count : Nat) : String := String.ofList ('a' :: List.replicate count 'é')

theorem toList_accented (count : Nat) : (accented count).toList = 'a' :: List.replicate count 'é' :=
  String.toList_ofList

/-- Of this name the field ends inside a character. -/
theorem storedName_accented : storedName (accented 200) = accented 118 := by
  rw [storedName, Utf8.truncate, toList_accented]
  exact congrArg String.ofList (by decide +kernel)

/-- The character that the end of the field breaks off is left out of a name of 401 bytes. No longer
start of the name fits, and the rest of it is read back. -/
theorem storedName_longest_accented :
    Utf8.decodeIgnoring ((Utf8.encode (accented 200)).take 238) = accented 118 ∧
      (accented 117).toList <+: (accented 118).toList ∧
      ∃ bs, (setName default (accented 200)).encode? = some bs ∧
        ofBytes? bs = some (setName default (accented 200)) := by
  have hfits : (default : Device).Encodable := by decide
  have hlong : ¬ Utf8.size (accented 200) < nameCapacity := by
    rw [Utf8.size, Utf8.encode, toList_accented]
    decide +kernel
  have hshort : Utf8.size (accented 117) ≤ nameCapacity - 1 := by
    rw [Utf8.size, Utf8.encode, toList_accented]
    decide +kernel
  have hstart : (accented 117).toList <+: (accented 200).toList := by
    rw [toList_accented, toList_accented]
    exact ⟨List.replicate 83 'é', rfl⟩
  have hnul : '\x00' ∉ (storedName (accented 200)).toList := by
    rw [storedName_accented, toList_accented]
    decide +kernel
  obtain ⟨hcut, -, -, hlongest, -, -, hdevice⟩ := storedName_longest (accented 200)
  have hkept := hlongest (accented 117) hstart hshort
  rw [if_neg hlong, storedName_accented] at hcut
  rw [storedName_accented] at hkept
  exact ⟨hcut.symm, hkept, (hdevice default hfits).2 hnul⟩

end SwitchTrace.Device
