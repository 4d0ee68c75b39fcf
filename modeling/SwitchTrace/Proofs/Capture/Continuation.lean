import SwitchTrace.Proofs.Capture.Language

/-!
# Bytes that are continued

What becomes of an outcome when further bytes follow. Bytes that are no capture stay so for the same
reason. Bytes that end too early say how many bytes are missing, and where: the bytes before that
place decide it, so that fewer further bytes leave the report as it is but for the number of bytes
at hand, and as many further bytes take the reader past all that was asked for. So a file that is
still being written is never taken for one that is no capture.

## Main definitions

* `Capture.Awaits` — the bytes before a place ask for a number of bytes there.

## Main results

* `Capture.Faulty.exists_awaits` — every truncation behind the magic bytes is such a place.
* `Capture.Awaits.le_offset` — with the bytes asked for, nothing before their end is missing.
* `Capture.decode_append_of_error` — the outcomes of continued bytes.
-/

namespace SwitchTrace

/-! ### Framed arrays -/

/-- A header that is refused is refused whatever follows. -/
theorem ArrayFault.append {array : String} {width offset : Nat} {rest : Bytes}
    {fault : DecodeFault} (h : ArrayFault array width ⟨offset, rest⟩ fault)
    (hcode : fault.code? ≠ some .truncated) (tail : Bytes) :
    ArrayFault array width ⟨offset, rest ++ tail⟩ fault := by
  cases h with
  | shortHeader => exact absurd rfl hcode
  | negativeCount hlength hheader hcount =>
    rw [List.append_assoc]
    exact .negativeCount hlength hheader hcount
  | narrow hlength hheader hsize =>
    rw [List.append_assoc]
    exact .narrow hlength hheader hsize
  | missing => exact absurd rfl hcode

/-- **What is missing of an array is decided by the bytes before it**: it is missing whatever fewer
bytes stand there. -/
theorem ArrayFault.exists_awaits {array : String} {width start : Nat} {rest : Bytes} {part : Part}
    {offset needed available : Nat}
    (h : ArrayFault array width ⟨start, rest⟩ (.truncated part offset needed available)) :
    ∃ before after, rest = before ++ after ∧ offset = start + before.length ∧
      available = after.length ∧ available < needed ∧ ∀ other : Bytes, other.length < needed →
        ArrayFault array width ⟨start, before ++ other⟩
          (.truncated part offset needed other.length) := by
  cases h with
  | shortHeader hrest =>
    exact ⟨[], rest, rfl, rfl, rfl, hrest, fun other hother => .shortHeader hother⟩
  | @missing _ header body _ _ hlength hheader hstride hbody =>
    exact ⟨header, body, rfl, by rw [hlength], rfl, hbody, fun other hother =>
      .missing hlength hheader hstride hother⟩

namespace Capture

/-! ### What is asked for -/

/-- The bytes ask for a part of `needed` bytes behind them: with fewer bytes there, the part is
truncated. -/
def Awaits (before : Bytes) (part : Part) (needed : Nat) : Prop :=
  ∀ after : Bytes, after.length < needed →
    Faulty (before ++ after) (.truncated part before.length needed after.length)

variable {data : Bytes} {fault : DecodeFault} {part part' : Part}
  {offset offset' needed needed' available available' : Nat}

/-- A truncation behind the magic bytes is a place at which bytes are asked for. -/
theorem Faulty.exists_awaits (h : Faulty data (.truncated part offset needed available))
    (hoffset : magic.length ≤ offset) : ∃ before after, data = before ++ after ∧
      offset = before.length ∧ available = after.length ∧ available < needed ∧
        Awaits before part needed := by
  cases h with
  | shortMagic => exact absurd hoffset (by decide)
  | devices hfault =>
    obtain ⟨before, after, rfl, rfl, rfl, hlt, hawaits⟩ := hfault.exists_awaits
    refine ⟨magic ++ before, after, (List.append_assoc ..).symm, List.length_append.symm, rfl, hlt,
      fun other hother => ?_⟩
    rw [List.append_assoc, List.length_append]
    exact .devices (hawaits other hother)
  | @records devices frames _ _ hindex hfault =>
    obtain ⟨before, after, rfl, rfl, rfl, hlt, hawaits⟩ := hfault.exists_awaits
    refine ⟨fileStart devices frames ++ before, after, (List.append_assoc ..).symm,
      List.length_append.symm, rfl, hlt, fun other hother => ?_⟩
    rw [List.append_assoc, List.length_append]
    exact .records hindex (hawaits other hother)

/-- Bytes that are at least as many as the magic bytes are truncated behind these. -/
theorem Faulty.magic_le_offset (h : Faulty data (.truncated part offset needed available))
    (hdata : magic.length ≤ data.length) : magic.length ≤ offset := by
  cases h with
  | shortMagic hstart hne =>
    exact absurd (hstart.eq_of_length (Nat.le_antisymm hstart.length_le hdata)) hne
  | devices hfault =>
    obtain ⟨before, -, -, rfl, -⟩ := hfault.exists_awaits
    exact Nat.le_add_right _ _
  | @records devices frames _ _ _ hfault =>
    obtain ⟨before, -, -, rfl, -⟩ := hfault.exists_awaits
    rw [length_fileStart]
    omega

/-- **With the bytes that are asked for, nothing before their end is missing.** -/
theorem Awaits.le_offset {before rest : Bytes} (h : Awaits before part needed)
    (hneeded : 0 < needed) (hrest : needed ≤ rest.length)
    (hfault : Faulty (before ++ rest) (.truncated part' offset' needed' available'))
    (hoffset : magic.length ≤ offset') : before.length + needed ≤ offset' := by
  obtain ⟨before', after', heq, rfl, rfl, hlt, h'⟩ := hfault.exists_awaits hoffset
  refine Nat.le_of_not_lt fun hbefore => ?_
  have hlength : before.length + rest.length = before'.length + after'.length := by
    rw [← List.length_append, heq, List.length_append]
  -- Cut behind both places: at the cut the bytes lack what is asked for at either of them.
  let cut := max before.length before'.length
  have htake : ∀ l r : Bytes, l.length ≤ cut → (l ++ r).take cut = l ++ r.take (cut - l.length) :=
    fun l r hl => by rw [List.take_append, List.take_of_length_le hl]
  have hcut := decode_of_faulty (h (rest.take (cut - before.length))
    (by rw [List.length_take]; omega))
  have hcut' := decode_of_faulty (h' (after'.take (cut - before'.length))
    (by rw [List.length_take]; omega))
  rw [← htake _ _ (Nat.le_max_left ..), heq] at hcut
  rw [← htake _ _ (Nat.le_max_right ..), hcut] at hcut'
  obtain ⟨-, hsame, hsame', -⟩ := DecodeFault.truncated.inj (Except.error.inj hcut')
  omega

/-! ### Continued bytes -/

theorem Faulty.append (h : Faulty data fault) (hcode : fault.code? = some .invalidArrayHeader ∨
    fault.code? = some .unsupportedOlderVersion) (tail : Bytes) : Faulty (data ++ tail) fault := by
  have htruncated : fault.code? ≠ some .truncated := by
    rcases hcode with hcode | hcode <;> simp [hcode]
  cases h with
  | badMagic => rcases hcode with hcode | hcode <;> cases hcode
  | shortMagic => exact absurd rfl htruncated
  | devices hfault =>
    rw [List.append_assoc]
    exact .devices (hfault.append htruncated tail)
  | records hindex hfault =>
    rw [List.append_assoc]
    exact .records hindex (hfault.append htruncated tail)

theorem Faulty.eq_take {found : Bytes} (h : Faulty data (.badMagic found)) :
    found = data.take magic.length := by
  obtain ⟨hdata, hmagic⟩ := h.of_code?_badMagic rfl
  have hfault := decode_of_faulty h
  rw [decode_of_faulty (.badMagic hdata hmagic)] at hfault
  exact (DecodeFault.badMagic.inj (Except.error.inj hfault)).symm

/-- Bytes that do not begin as a capture does are not made to by what follows. -/
theorem Faulty.append_badMagic {found : Bytes} (h : Faulty data (.badMagic found)) (tail : Bytes) :
    Faulty (data ++ tail) (.badMagic ((found ++ tail).take magic.length)) := by
  obtain ⟨hdata, hmagic⟩ := h.of_code?_badMagic rfl
  have hfound : (found ++ tail).take magic.length = (data ++ tail).take magic.length := by
    rw [h.eq_take]
    by_cases hlength : data.length ≤ magic.length
    · rw [List.take_of_length_le hlength]
    · have hle : magic.length ≤ data.length := Nat.le_of_not_le hlength
      rw [List.take_append_of_le_length hle, List.take_left' (List.length_take_of_le hle)]
  rw [hfound]
  refine .badMagic (fun h => hdata ((List.prefix_append data tail).trans h)) fun h => ?_
  rcases List.prefix_or_prefix_of_prefix (List.prefix_append data tail) h with h | h
  · exact hdata h
  · exact hmagic h

/-- The bytes with which a capture begins are read as it or truncated: any other fault of theirs
would be a fault of the whole. -/
theorem decode_start_of_decode_append {c : Capture} {start tail : Bytes}
    (h : decode (start ++ tail) = .ok c) : decode start = .ok c ∨
      ∃ fault, decode start = .error fault ∧ fault.code? = some .truncated := by
  cases hstart : decode start with
  | ok c' =>
    obtain ⟨image, rest, rfl, hholds⟩ := exists_image_of_decode hstart
    rw [List.append_assoc, decode_bytes_append hholds] at h
    exact .inl h
  | error fault =>
    have hfault := faulty_of_decode hstart
    refine .inr ⟨fault, rfl, ?_⟩
    rcases hfault.code? with hcode | hcode | hcode
    · cases fault with
      | badMagic found =>
        rw [decode_of_faulty (hfault.append_badMagic tail)] at h
        cases h
      | _ => cases hcode
    · exact hcode
    · rw [decode_of_faulty (hfault.append hcode tail)] at h
      cases h

/-- **The outcomes of continued bytes.** Bytes that are refused for the magic bytes or for a header
are refused for the same reason whatever follows; only fewer bytes than the magic bytes are
reported with more of them. Bytes that are truncated behind the magic bytes stay truncated at the
same place as long as fewer bytes follow than are missing there, and are not truncated before the
end of the missing bytes once these are there. So the bytes with which a capture begins are read as
it or truncated. -/
theorem decode_append_of_error :
    (∀ data found tail, decode data = .error (.badMagic found) →
      decode (data ++ tail) = .error (.badMagic ((found ++ tail).take magic.length)) ∧
        (magic.length ≤ data.length → (found ++ tail).take magic.length = found)) ∧
      (∀ data fault tail, decode data = .error fault →
        fault.code? = some .invalidArrayHeader ∨ fault.code? = some .unsupportedOlderVersion →
          decode (data ++ tail) = .error fault) ∧
      (∀ data part offset needed available (tail : Bytes),
        decode data = .error (.truncated part offset needed available) → magic.length ≤ offset →
          (tail.length < needed - available → decode (data ++ tail) =
            .error (.truncated part offset needed (available + tail.length))) ∧
          (needed - available ≤ tail.length → ∀ part' offset' needed' available',
            decode (data ++ tail) = .error (.truncated part' offset' needed' available') →
              offset + needed ≤ offset')) ∧
      ∀ data c start, decode data = .ok c → start <+: data →
        decode start = .ok c ∨ ∃ fault, decode start = .error fault ∧
          fault.code? = some .truncated := by
  refine ⟨fun data found tail h => ⟨?_, fun hlength => ?_⟩, fun data fault tail h hcode => ?_,
    fun data part offset needed available tail h hoffset => ?_, ?_⟩
  · exact decode_of_faulty ((faulty_of_decode h).append_badMagic tail)
  · rw [(faulty_of_decode h).eq_take]
    exact List.take_left' (List.length_take_of_le hlength)
  · exact decode_of_faulty ((faulty_of_decode h).append hcode tail)
  · obtain ⟨before, after, rfl, rfl, rfl, hlt, hawaits⟩ :=
      (faulty_of_decode h).exists_awaits hoffset
    have hlength : (after ++ tail).length = after.length + tail.length := List.length_append
    rw [List.append_assoc]
    constructor
    · intro htail
      rw [← hlength]
      exact decode_of_faulty (hawaits (after ++ tail) (by omega))
    · intro htail part' offset' needed' available' h'
      have hfault := faulty_of_decode h'
      have hoffset' : magic.length ≤ offset' := hfault.magic_le_offset (by
        rw [List.length_append]
        omega)
      exact hawaits.le_offset (by omega) (by omega) hfault hoffset'
  · rintro _ c start h ⟨tail, rfl⟩
    exact decode_start_of_decode_append h

/-- One byte that is not the first of the magic bytes, a header of a negative number of elements, a
header of which half is missing and less or all of it follows, and an image of no devices cut within
its header. -/
theorem decode_append_of_error_initial :
    decode ([0x78] ++ magic) =
        .error (.badMagic [0x78, 0x6E, 0x76, 0x74, 0x72, 0x63, 0x30, 0x31]) ∧
      decode (magic ++ [0xFF, 0xFF, 0xFF, 0xFF, 0x17, 0x00, 0x00, 0x00] ++ [0x01]) =
        .error (.negativeCount "device descriptor" (-1)) ∧
      decode (magic ++ [0x01, 0x00, 0x00, 0x00] ++ [0x20]) =
        .error (.truncated (.arrayHeader "device descriptor") 8 8 5) ∧
      (decode (magic ++ [0x01, 0x00, 0x00, 0x00] ++ [0x20, 0x01, 0x00, 0x00]) =
        .error (.truncated (.elements 1 "device descriptor") 16 288 0) ∧ 8 + 8 ≤ 16) ∧
      (decode (magic ++ [0x00, 0x00, 0x00]) = .ok ⟨[]⟩ ∨
        ∃ fault, decode (magic ++ [0x00, 0x00, 0x00]) = .error fault ∧
          fault.code? = some .truncated) := by
  have hhalf : decode (magic ++ [0x01, 0x00, 0x00, 0x00]) =
      .error (.truncated (.arrayHeader "device descriptor") 8 8 4) := by decide
  have hwhole : decode (magic ++ [0x01, 0x00, 0x00, 0x00] ++ [0x20, 0x01, 0x00, 0x00]) =
      .error (.truncated (.elements 1 "device descriptor") 16 288 0) := by decide
  refine ⟨?_, ?_, ?_, ⟨hwhole, ?_⟩, ?_⟩
  · exact (decode_append_of_error.1 [0x78] [0x78] magic (by decide)).1
  · exact decode_append_of_error.2.1 _ (.negativeCount "device descriptor" (-1)) [0x01] (by decide)
      (.inl rfl)
  · exact (decode_append_of_error.2.2.1 _ _ 8 8 4 [0x20] hhalf (by decide)).1 (by decide)
  · exact (decode_append_of_error.2.2.1 _ _ 8 8 4 _ hhalf (by decide)).2 (by decide) _ _ _ _ hwhole
  · exact decode_append_of_error.2.2.2
      (magic ++ [0x00, 0x00, 0x00, 0x00, 0x20, 0x01, 0x00, 0x00]) ⟨[]⟩ _ (by decide) (by decide)

end Capture

end SwitchTrace
