import SwitchTrace.Text.Utf8

/-!
# Reading back what is written as UTF-8

The bytes of a character are one segment again, whatever follows them, so a text is read back from
its bytes. The NUL byte occurs in the bytes of the NUL character and in no others, so cutting bytes
before the first NUL and cutting characters before the first NUL come to the same.

## Main results

* `Utf8.firstSegment_encodeChar` — the bytes of one character, whatever follows them.
* `Utf8.segments_encodeChars_append`, `Utf8.decodeLossy_encodeChars` — the bytes of a text.
* `Utf8.takeWhile_encodeChars_append` — bytes before the first NUL.
* `Utf8.length_encodeChars_truncateChars_le`, `Utf8.truncateChars_prefix`,
  `Utf8.truncateChars_eq_self` — cut texts fit, nothing but their end is cut off, and texts that fit
  are not cut.
-/

namespace SwitchTrace.Utf8

/-! ### One character -/

theorem toNat_lt_surrogates_or (c : Char) :
    c.toNat < 0xD800 ∨ 0xDFFF < c.toNat ∧ c.toNat < 0x110000 :=
  c.valid

theorem toNat_ofNat_of_lt {n : Nat} (h : n < 256) : (UInt8.ofNat n).toNat = n := by
  rw [UInt8.toNat_ofNat', Nat.mod_eq_of_lt h]

/-- A continuation byte in its range gives six bits, and the following ones are read on. -/
theorem continueChar_cons {more lo hi bits : Nat} {b : UInt8} {bs : Bytes} (hlo : lo ≤ b.toNat)
    (hhi : b.toNat ≤ hi) :
    continueChar (more + 1) lo hi bits (b :: bs) =
      ((continueChar more 0x80 0xBF (bits * 64 + (b.toNat - 0x80)) bs).1,
        (continueChar more 0x80 0xBF (bits * 64 + (b.toNat - 0x80)) bs).2 + 1) := by
  rw [continueChar, if_pos ⟨hlo, hhi⟩]

/-- The number of a character that follows a first byte with its continuation bytes. -/
theorem firstSegment_of_continueChar {b : UInt8} {bs : Bytes} {more lo hi read : Nat} {c : Char}
    (hb : 0x80 ≤ b.toNat) (hcont : continuation b.toNat = some (more, lo, hi))
    (hread : continueChar more lo hi (leadBits b.toNat more) bs = (.inl c.toNat, read)) :
    firstSegment b bs = (.char c, read) := by
  rw [firstSegment, if_neg (by omega), hcont]
  simp only [hread, Char.ofNat_toNat]

section Lengths

variable {c : Char} (rest : Bytes)

private theorem firstSegment_one (h : c.toNat < 0x80) :
    firstSegment (UInt8.ofNat c.toNat) rest = (.char c, 0) := by
  have hb : (UInt8.ofNat c.toNat).toNat = c.toNat := toNat_ofNat_of_lt (by omega)
  rw [firstSegment, hb, if_pos h, Char.ofNat_toNat]

private theorem firstSegment_two (h : 0x80 ≤ c.toNat) (h' : c.toNat < 0x800) :
    firstSegment (UInt8.ofNat (0xC0 + c.toNat / 64))
      (UInt8.ofNat (0x80 + c.toNat % 64) :: rest) = (.char c, 1) := by
  have h0 : (UInt8.ofNat (0xC0 + c.toNat / 64)).toNat = 0xC0 + c.toNat / 64 :=
    toNat_ofNat_of_lt (by omega)
  have h1 : (UInt8.ofNat (0x80 + c.toNat % 64)).toNat = 0x80 + c.toNat % 64 :=
    toNat_ofNat_of_lt (by omega)
  have hcont : continuation (0xC0 + c.toNat / 64) = some (1, 0x80, 0xBF) := by
    rw [continuation, if_neg (by omega), if_pos (by omega)]
  refine firstSegment_of_continueChar (by omega) (h0 ▸ hcont) ?_
  rw [continueChar_cons (by omega) (by omega), h0, h1, leadBits, if_pos rfl]
  simp only [continueChar, Prod.mk.injEq, Sum.inl.injEq, and_true]
  omega

private theorem firstSegment_three (h : 0x800 ≤ c.toNat) (h' : c.toNat < 0x10000) :
    firstSegment (UInt8.ofNat (0xE0 + c.toNat / 4096))
      (UInt8.ofNat (0x80 + c.toNat / 64 % 64) :: UInt8.ofNat (0x80 + c.toNat % 64) :: rest) =
        (.char c, 2) := by
  have h0 : (UInt8.ofNat (0xE0 + c.toNat / 4096)).toNat = 0xE0 + c.toNat / 4096 :=
    toNat_ofNat_of_lt (by omega)
  have h1 : (UInt8.ofNat (0x80 + c.toNat / 64 % 64)).toNat = 0x80 + c.toNat / 64 % 64 :=
    toNat_ofNat_of_lt (by omega)
  have h2 : (UInt8.ofNat (0x80 + c.toNat % 64)).toNat = 0x80 + c.toNat % 64 :=
    toNat_ofNat_of_lt (by omega)
  -- The range of the second byte leaves out longer forms of short characters and the surrogates.
  obtain ⟨lo, hi, hcont, hlo, hhi⟩ : ∃ lo hi, continuation (0xE0 + c.toNat / 4096) =
      some (2, lo, hi) ∧ lo ≤ 0x80 + c.toNat / 64 % 64 ∧ 0x80 + c.toNat / 64 % 64 ≤ hi := by
    have hc := toNat_lt_surrogates_or c
    rw [continuation, if_neg (by omega), if_neg (by omega)]
    split
    · exact ⟨_, _, rfl, by omega, by omega⟩
    · split
      · exact ⟨_, _, rfl, by omega, by omega⟩
      · rw [if_pos (by omega)]
        exact ⟨_, _, rfl, by omega, by omega⟩
  refine firstSegment_of_continueChar (by omega) (h0 ▸ hcont) ?_
  rw [continueChar_cons (by omega) (by omega), continueChar_cons (by omega) (by omega), h0, h1, h2,
    leadBits, if_neg (by decide), if_pos rfl]
  simp only [continueChar, Prod.mk.injEq, Sum.inl.injEq, and_true]
  omega

private theorem firstSegment_four (h : 0x10000 ≤ c.toNat) :
    firstSegment (UInt8.ofNat (0xF0 + c.toNat / 262144))
      (UInt8.ofNat (0x80 + c.toNat / 4096 % 64) :: UInt8.ofNat (0x80 + c.toNat / 64 % 64) ::
        UInt8.ofNat (0x80 + c.toNat % 64) :: rest) = (.char c, 3) := by
  have hc := toNat_lt_surrogates_or c
  have h0 : (UInt8.ofNat (0xF0 + c.toNat / 262144)).toNat = 0xF0 + c.toNat / 262144 :=
    toNat_ofNat_of_lt (by omega)
  have h1 : (UInt8.ofNat (0x80 + c.toNat / 4096 % 64)).toNat = 0x80 + c.toNat / 4096 % 64 :=
    toNat_ofNat_of_lt (by omega)
  have h2 : (UInt8.ofNat (0x80 + c.toNat / 64 % 64)).toNat = 0x80 + c.toNat / 64 % 64 :=
    toNat_ofNat_of_lt (by omega)
  have h3 : (UInt8.ofNat (0x80 + c.toNat % 64)).toNat = 0x80 + c.toNat % 64 :=
    toNat_ofNat_of_lt (by omega)
  -- The range of the second byte leaves out longer forms and numbers beyond the last character.
  obtain ⟨lo, hi, hcont, hlo, hhi⟩ : ∃ lo hi, continuation (0xF0 + c.toNat / 262144) =
      some (3, lo, hi) ∧ lo ≤ 0x80 + c.toNat / 4096 % 64 ∧ 0x80 + c.toNat / 4096 % 64 ≤ hi := by
    rw [continuation, if_neg (by omega), if_neg (by omega), if_neg (by omega), if_neg (by omega),
      if_neg (by omega)]
    split
    · exact ⟨_, _, rfl, by omega, by omega⟩
    · split
      · exact ⟨_, _, rfl, by omega, by omega⟩
      · rw [if_pos (by omega)]
        exact ⟨_, _, rfl, by omega, by omega⟩
  refine firstSegment_of_continueChar (by omega) (h0 ▸ hcont) ?_
  rw [continueChar_cons (by omega) (by omega), continueChar_cons (by omega) (by omega),
    continueChar_cons (by omega) (by omega), h0, h1, h2, h3, leadBits, if_neg (by decide),
    if_neg (by decide)]
  simp only [continueChar, Prod.mk.injEq, Sum.inl.injEq, and_true]
  omega

end Lengths

/-- The bytes of a character are a first byte, and with it they are one segment: the character. -/
theorem firstSegment_encodeChar (c : Char) (rest : Bytes) :
    ∃ b bs, encodeChar c = b :: bs ∧ firstSegment b (bs ++ rest) = (.char c, bs.length) := by
  simp only [encodeChar]
  split
  case isTrue h => exact ⟨_, _, rfl, firstSegment_one rest h⟩
  case isFalse h1 =>
    split
    case isTrue h => exact ⟨_, _, rfl, firstSegment_two rest (by omega) h⟩
    case isFalse h2 =>
      split
      case isTrue h => exact ⟨_, _, rfl, firstSegment_three rest (by omega) h⟩
      case isFalse h3 => exact ⟨_, _, rfl, firstSegment_four rest (by omega)⟩

/-! ### Texts -/

theorem encodeChars_cons (c : Char) (cs : List Char) :
    encodeChars (c :: cs) = encodeChar c ++ encodeChars cs :=
  List.flatMap_cons

theorem segments_encodeChar_append (c : Char) (rest : Bytes) :
    segments (encodeChar c ++ rest) = .char c :: segments rest := by
  obtain ⟨b, bs, hc, hfirst⟩ := firstSegment_encodeChar c rest
  rw [hc, List.cons_append, segments, hfirst]
  simp only [List.drop_left]

/-- **The bytes of a text are read as its characters**, whatever follows them. -/
theorem segments_encodeChars_append (cs : List Char) (rest : Bytes) :
    segments (encodeChars cs ++ rest) = cs.map .char ++ segments rest := by
  induction cs with
  | nil => rfl
  | cons c cs ih =>
    rw [encodeChars_cons, List.append_assoc, segments_encodeChar_append, ih]
    rfl

theorem decodeLossy_encodeChars (cs : List Char) :
    decodeLossy (encodeChars cs) = String.ofList cs := by
  have h := segments_encodeChars_append cs []
  rw [List.append_nil, segments, List.append_nil] at h
  rw [decodeLossy, h, List.map_map]
  exact congrArg String.ofList (List.map_id cs)

/-! ### The NUL byte -/

/-- The bytes of a character other than NUL are not NUL. -/
theorem ne_zero_of_mem_encodeChar {c : Char} (hc : c ≠ '\x00') {b : UInt8}
    (hb : b ∈ encodeChar c) : b ≠ 0 := by
  have hpos : c.toNat ≠ 0 := fun h => hc (Char.toNat_inj.mp h)
  have hlt := toNat_lt_surrogates_or c
  have hne {n : Nat} (h : 0 < n) (h' : n < 256) : UInt8.ofNat n ≠ 0 := fun h0 => by
    have h1 := toNat_ofNat_of_lt h'
    rw [h0] at h1
    exact absurd h1 (Nat.ne_of_lt h)
  simp only [encodeChar] at hb
  split at hb
  · simp only [List.mem_cons, List.not_mem_nil, or_false] at hb
    rcases hb with rfl
    exact hne (by omega) (by omega)
  · split at hb
    · simp only [List.mem_cons, List.not_mem_nil, or_false] at hb
      rcases hb with rfl | rfl <;> exact hne (by omega) (by omega)
    · split at hb
      · simp only [List.mem_cons, List.not_mem_nil, or_false] at hb
        rcases hb with rfl | rfl | rfl <;> exact hne (by omega) (by omega)
      · simp only [List.mem_cons, List.not_mem_nil, or_false] at hb
        rcases hb with rfl | rfl | rfl | rfl <;> exact hne (by omega) (by omega)

/-- **Cutting before the first NUL.** Bytes of a text that a NUL follows are cut where the text
itself is. -/
theorem takeWhile_encodeChars_append (cs : List Char) (rest : Bytes) :
    (encodeChars cs ++ 0 :: rest).takeWhile (· != 0) =
      encodeChars (cs.takeWhile (· != '\x00')) := by
  induction cs with
  | nil => rfl
  | cons c cs ih =>
    rw [encodeChars_cons, List.append_assoc]
    by_cases hc : c = '\x00'
    · subst hc
      rfl
    · have hbytes : ∀ b ∈ encodeChar c, (b != 0) = true := fun b hb =>
        bne_iff_ne.mpr (ne_zero_of_mem_encodeChar hc hb)
      rw [List.takeWhile_append_of_pos hbytes, ih, List.takeWhile_cons,
        if_pos (bne_iff_ne.mpr hc), encodeChars_cons]

/-! ### Cut texts -/

theorem length_encodeChars_truncateChars_le (room : Nat) (cs : List Char) :
    (encodeChars (truncateChars room cs)).length ≤ room := by
  induction cs generalizing room with
  | nil => exact Nat.zero_le room
  | cons c cs ih =>
    rw [truncateChars]
    split
    case isTrue hc =>
      have htail := ih (room - charSize c)
      rw [encodeChars_cons, List.length_append, ← charSize]
      omega
    case isFalse => exact Nat.zero_le room

theorem truncateChars_prefix (room : Nat) (cs : List Char) : truncateChars room cs <+: cs := by
  induction cs generalizing room with
  | nil => exact List.prefix_refl []
  | cons c cs ih =>
    rw [truncateChars]
    split
    case isTrue => exact List.cons_prefix_cons.mpr ⟨rfl, ih _⟩
    case isFalse => exact List.nil_prefix

/-- A start that fits is not cut. -/
theorem truncateChars_append {room : Nat} {start : List Char} (rest : List Char)
    (h : (encodeChars start).length ≤ room) :
    truncateChars room (start ++ rest) =
      start ++ truncateChars (room - (encodeChars start).length) rest := by
  induction start generalizing room with
  | nil => rfl
  | cons c start ih =>
    rw [encodeChars_cons, List.length_append, ← charSize] at h ⊢
    rw [List.cons_append, truncateChars, if_pos (by omega), ih (by omega), Nat.sub_sub,
      List.cons_append]

theorem truncateChars_eq_self {room : Nat} {cs : List Char}
    (h : (encodeChars cs).length ≤ room) : truncateChars room cs = cs := by
  have hall := truncateChars_append [] h
  rwa [truncateChars, List.append_nil] at hall

end SwitchTrace.Utf8
