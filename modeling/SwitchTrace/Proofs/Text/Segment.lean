import SwitchTrace.Proofs.Text.Utf8

/-!
# Writing back what is read as UTF-8

A segment that is a character was read from the bytes of that character: there is no longer form
and no other form of it. So bytes without an ill-formed piece are the bytes of their text. An
ill-formed piece has at most three bytes and is read as a character of three, so that a text is
never shorter than the bytes it was read from.

## Main definitions

* `Utf8.Segment.growth`, `Utf8.growthIn`, `Utf8.growth` — by how much bytes grow when they are
  read and written again.

## Main results

* `Utf8.encodeChar_of_firstSegment` — a character that is read has the bytes it is read from.
* `Utf8.decode_eq_ok_iff` — bytes without an ill-formed piece are the bytes of a text.
* `Utf8.size_decodeLossy` — the size of a text that is read from any bytes.
* `Utf8.nul_notMem_decodeLossy` — reading invents no NUL.
-/

namespace SwitchTrace.Utf8

/-! ### First bytes and continuation bytes -/

/-- What a first byte asks for. The bounds on the byte after it leave out the numbers below the
range of the length, the surrogates, and the numbers beyond the last character. -/
theorem continuation_eq_some {lead more lo hi : Nat}
    (h : continuation lead = some (more, lo, hi)) :
    (more = 1 ∧ 0xC2 ≤ lead ∧ lead < 0xE0 ∧ 0x80 ≤ lo ∧ hi ≤ 0xBF) ∨
      (more = 2 ∧ 0xE0 ≤ lead ∧ lead < 0xF0 ∧ 0x80 ≤ lo ∧ hi ≤ 0xBF ∧
        (lead = 0xE0 → 0xA0 ≤ lo) ∧ (lead = 0xED → hi ≤ 0x9F)) ∨
      (more = 3 ∧ 0xF0 ≤ lead ∧ lead ≤ 0xF4 ∧ 0x80 ≤ lo ∧ hi ≤ 0xBF ∧
        (lead = 0xF0 → 0x90 ≤ lo) ∧ (lead = 0xF4 → hi ≤ 0x8F)) := by
  unfold continuation at h
  repeat' split at h
  all_goals cases h
  all_goals omega

theorem continueChar_zero_eq_inl {lo hi bits n read : Nat} {bs : Bytes}
    (h : continueChar 0 lo hi bits bs = (.inl n, read)) : n = bits ∧ read = 0 := by
  cases h
  exact ⟨rfl, rfl⟩

/-- Where a character is read to its end, the next byte is a continuation byte in its range. -/
theorem continueChar_succ_eq_inl {more lo hi bits n read : Nat} {bs : Bytes}
    (h : continueChar (more + 1) lo hi bits bs = (.inl n, read)) :
    ∃ b rest read', bs = b :: rest ∧ lo ≤ b.toNat ∧ b.toNat ≤ hi ∧ read = read' + 1 ∧
      continueChar more 0x80 0xBF (bits * 64 + (b.toNat - 0x80)) rest = (.inl n, read') := by
  cases bs with
  | nil => cases h
  | cons b rest =>
    by_cases hb : lo ≤ b.toNat ∧ b.toNat ≤ hi
    · rw [continueChar_cons hb.1 hb.2] at h
      obtain ⟨hanswer, hread⟩ := Prod.mk.inj h
      exact ⟨b, rest, _, rfl, hb.1, hb.2, hread.symm, Prod.ext hanswer rfl⟩
    · rw [continueChar, if_neg hb] at h
      cases h

/-- No more bytes are read than there are and than are asked for, and fewer than are asked for if
the character is broken off. -/
theorem read_of_continueChar {more lo hi bits read : Nat} {bs : Bytes} {answer : Nat ⊕ Defect}
    (h : continueChar more lo hi bits bs = (answer, read)) :
    read ≤ bs.length ∧ read ≤ more ∧ ∀ defect, answer = .inr defect → read < more := by
  induction more generalizing lo hi bits bs answer read with
  | zero =>
    cases h
    exact ⟨Nat.zero_le _, Nat.le_refl 0, fun _ h => nomatch h⟩
  | succ more ih =>
    cases bs with
    | nil =>
      cases h
      exact ⟨Nat.zero_le _, Nat.zero_le _, fun _ _ => Nat.succ_pos more⟩
    | cons b bs =>
      by_cases hb : lo ≤ b.toNat ∧ b.toNat ≤ hi
      · rw [continueChar_cons hb.1 hb.2] at h
        obtain ⟨hlength, hmore, hdefect⟩ := ih (Prod.ext rfl rfl)
        cases h
        exact ⟨Nat.succ_le_succ hlength, Nat.succ_le_succ hmore,
          fun defect h => Nat.succ_lt_succ (hdefect defect h)⟩
      · rw [continueChar, if_neg hb] at h
        cases h
        exact ⟨Nat.zero_le _, Nat.zero_le _, fun _ _ => Nat.succ_pos more⟩

/-! ### One character -/

theorem ofNat_eq_of_eq_toNat {b : UInt8} {n : Nat} (h : n = b.toNat) : UInt8.ofNat n = b := by
  rw [h, UInt8.ofNat_toNat]

/-- The number of a character that is neither a surrogate nor beyond the last one. -/
theorem toNat_ofNat_of_valid {n : Nat} (h : n < 0xD800 ∨ 0xDFFF < n ∧ n < 0x110000) :
    (Char.ofNat n).toNat = n := by
  rw [Char.ofNat, dif_pos h]
  exact UInt32.toNat_ofNatLT

section Lengths

variable {b b₁ b₂ b₃ : UInt8}

private theorem encodeChar_one (hb : b.toNat < 0x80) : encodeChar (Char.ofNat b.toNat) = [b] := by
  have hn : (Char.ofNat b.toNat).toNat = b.toNat := toNat_ofNat_of_valid (by omega)
  simp only [encodeChar, hn]
  rw [if_pos hb, UInt8.ofNat_toNat]

private theorem encodeChar_two {n : Nat} (hb : 0xC2 ≤ b.toNat) (hb' : b.toNat < 0xE0)
    (h₁ : 0x80 ≤ b₁.toNat) (h₁' : b₁.toNat ≤ 0xBF)
    (hn : n = (b.toNat - 0xC0) * 64 + (b₁.toNat - 0x80)) :
    encodeChar (Char.ofNat n) = [b, b₁] := by
  have hchar : (Char.ofNat n).toNat = n := toNat_ofNat_of_valid (by omega)
  have h0 : UInt8.ofNat (0xC0 + n / 64) = b := ofNat_eq_of_eq_toNat (by omega)
  have h1 : UInt8.ofNat (0x80 + n % 64) = b₁ := ofNat_eq_of_eq_toNat (by omega)
  simp only [encodeChar, hchar]
  rw [if_neg (by omega), if_pos (by omega), h0, h1]

private theorem encodeChar_three {n : Nat} (hb : 0xE0 ≤ b.toNat) (hb' : b.toNat < 0xF0)
    (h₁ : 0x80 ≤ b₁.toNat) (h₁' : b₁.toNat ≤ 0xBF) (hlow : b.toNat = 0xE0 → 0xA0 ≤ b₁.toNat)
    (hsurrogate : b.toNat = 0xED → b₁.toNat ≤ 0x9F) (h₂ : 0x80 ≤ b₂.toNat) (h₂' : b₂.toNat ≤ 0xBF)
    (hn : n = ((b.toNat - 0xE0) * 64 + (b₁.toNat - 0x80)) * 64 + (b₂.toNat - 0x80)) :
    encodeChar (Char.ofNat n) = [b, b₁, b₂] := by
  have hchar : (Char.ofNat n).toNat = n := toNat_ofNat_of_valid (by omega)
  have h0 : UInt8.ofNat (0xE0 + n / 4096) = b := ofNat_eq_of_eq_toNat (by omega)
  have h1 : UInt8.ofNat (0x80 + n / 64 % 64) = b₁ := ofNat_eq_of_eq_toNat (by omega)
  have h2 : UInt8.ofNat (0x80 + n % 64) = b₂ := ofNat_eq_of_eq_toNat (by omega)
  simp only [encodeChar, hchar]
  rw [if_neg (by omega), if_neg (by omega), if_pos (by omega), h0, h1, h2]

private theorem encodeChar_four {n : Nat} (hb : 0xF0 ≤ b.toNat) (hb' : b.toNat ≤ 0xF4)
    (h₁ : 0x80 ≤ b₁.toNat) (h₁' : b₁.toNat ≤ 0xBF) (hlow : b.toNat = 0xF0 → 0x90 ≤ b₁.toNat)
    (hlast : b.toNat = 0xF4 → b₁.toNat ≤ 0x8F) (h₂ : 0x80 ≤ b₂.toNat) (h₂' : b₂.toNat ≤ 0xBF)
    (h₃ : 0x80 ≤ b₃.toNat) (h₃' : b₃.toNat ≤ 0xBF)
    (hn : n = (((b.toNat - 0xF0) * 64 + (b₁.toNat - 0x80)) * 64 + (b₂.toNat - 0x80)) * 64 +
      (b₃.toNat - 0x80)) :
    encodeChar (Char.ofNat n) = [b, b₁, b₂, b₃] := by
  have hchar : (Char.ofNat n).toNat = n := toNat_ofNat_of_valid (by omega)
  have h0 : UInt8.ofNat (0xF0 + n / 262144) = b := ofNat_eq_of_eq_toNat (by omega)
  have h1 : UInt8.ofNat (0x80 + n / 4096 % 64) = b₁ := ofNat_eq_of_eq_toNat (by omega)
  have h2 : UInt8.ofNat (0x80 + n / 64 % 64) = b₂ := ofNat_eq_of_eq_toNat (by omega)
  have h3 : UInt8.ofNat (0x80 + n % 64) = b₃ := ofNat_eq_of_eq_toNat (by omega)
  simp only [encodeChar, hchar]
  rw [if_neg (by omega), if_neg (by omega), if_neg (by omega), h0, h1, h2, h3]

end Lengths

/-- A first byte with all the continuation bytes that it asks for is the bytes of a character. -/
theorem encodeChar_of_continueChar {b : UInt8} {bs : Bytes} {more lo hi n read : Nat}
    (hcont : continuation b.toNat = some (more, lo, hi))
    (hread : continueChar more lo hi (leadBits b.toNat more) bs = (.inl n, read)) :
    encodeChar (Char.ofNat n) = b :: bs.take read := by
  rcases continuation_eq_some hcont with ⟨rfl, hb, hb', hlo, hhi⟩ |
    ⟨rfl, hb, hb', hlo, hhi, hlow, hsurrogate⟩ | ⟨rfl, hb, hb', hlo, hhi, hlow, hlast⟩
  · obtain ⟨b₁, rest, _, rfl, h₁, h₁', rfl, hread₁⟩ := continueChar_succ_eq_inl hread
    obtain ⟨hn, rfl⟩ := continueChar_zero_eq_inl hread₁
    exact encodeChar_two hb hb' (by omega) (by omega) hn
  · obtain ⟨b₁, rest, _, rfl, h₁, h₁', rfl, hread₁⟩ := continueChar_succ_eq_inl hread
    obtain ⟨b₂, rest, _, rfl, h₂, h₂', rfl, hread₂⟩ := continueChar_succ_eq_inl hread₁
    obtain ⟨hn, rfl⟩ := continueChar_zero_eq_inl hread₂
    exact encodeChar_three hb hb' (by omega) (by omega) (fun h => Nat.le_trans (hlow h) h₁)
      (fun h => Nat.le_trans h₁' (hsurrogate h)) h₂ h₂' hn
  · obtain ⟨b₁, rest, _, rfl, h₁, h₁', rfl, hread₁⟩ := continueChar_succ_eq_inl hread
    obtain ⟨b₂, rest, _, rfl, h₂, h₂', rfl, hread₂⟩ := continueChar_succ_eq_inl hread₁
    obtain ⟨b₃, rest, _, rfl, h₃, h₃', rfl, hread₃⟩ := continueChar_succ_eq_inl hread₂
    obtain ⟨hn, rfl⟩ := continueChar_zero_eq_inl hread₃
    exact encodeChar_four hb hb' (by omega) (by omega) (fun h => Nat.le_trans (hlow h) h₁)
      (fun h => Nat.le_trans h₁' (hlast h)) h₂ h₂' h₃ h₃' hn

/-- How the first segment is found: a byte that is a character by itself, a byte that starts no
character, a character of several bytes, or one that is broken off before its end. -/
theorem firstSegment_cases (b : UInt8) (bs : Bytes) :
    (b.toNat < 0x80 ∧ firstSegment b bs = (.char (Char.ofNat b.toNat), 0)) ∨
      firstSegment b bs = (.illFormed [b] .invalidStart, 0) ∨
      ∃ more lo hi read, continuation b.toNat = some (more, lo, hi) ∧
        ((∃ n, continueChar more lo hi (leadBits b.toNat more) bs = (.inl n, read) ∧
            firstSegment b bs = (.char (Char.ofNat n), read)) ∨
          ∃ defect, continueChar more lo hi (leadBits b.toNat more) bs = (.inr defect, read) ∧
            firstSegment b bs = (.illFormed (b :: bs.take read) defect, read)) := by
  by_cases hb : b.toNat < 0x80
  · exact .inl ⟨hb, by rw [firstSegment, if_pos hb]⟩
  · rw [firstSegment, if_neg hb]
    cases hcont : continuation b.toNat with
    | none => exact .inr (.inl rfl)
    | some asked =>
      obtain ⟨more, lo, hi⟩ := asked
      cases hread : continueChar more lo hi (leadBits b.toNat more) bs with
      | mk answer read =>
        cases answer with
        | inl n =>
          exact .inr (.inr ⟨more, lo, hi, read, rfl, .inl ⟨n, hread, by simp only [hread]⟩⟩)
        | inr defect =>
          exact .inr (.inr ⟨more, lo, hi, read, rfl, .inr ⟨defect, hread, by simp only [hread]⟩⟩)

/-- **A character that is read has the bytes it is read from.** -/
theorem encodeChar_of_firstSegment {b : UInt8} {bs : Bytes} {c : Char} {read : Nat}
    (h : firstSegment b bs = (.char c, read)) : encodeChar c = b :: bs.take read := by
  rcases firstSegment_cases b bs with ⟨hb, hfirst⟩ | hfirst |
    ⟨more, lo, hi, read', hcont, ⟨n, hread, hfirst⟩ | ⟨defect, -, hfirst⟩⟩
  · rw [hfirst] at h
    cases h
    exact encodeChar_one hb
  · rw [hfirst] at h
    cases h
  · rw [hfirst] at h
    cases h
    exact encodeChar_of_continueChar hcont hread
  · rw [hfirst] at h
    cases h

/-! ### Texts -/

/-- Bytes all of whose segments are characters are the bytes of these characters. -/
theorem encodeChars_of_segments {bs : Bytes} {cs : List Char} (h : segments bs = cs.map .char) :
    encodeChars cs = bs := by
  -- Over the characters and not over the bytes: each character says how many bytes it takes.
  induction cs generalizing bs with
  | nil =>
    cases bs with
    | nil => rfl
    | cons b bs =>
      rw [segments] at h
      cases h
  | cons c cs ih =>
    cases bs with
    | nil =>
      rw [segments] at h
      cases h
    | cons b bs =>
      obtain ⟨read, hfirst⟩ : ∃ read, firstSegment b bs = (.char c, read) := by
        rw [segments] at h
        exact ⟨_, Prod.ext (List.cons.inj h).1 rfl⟩
      rw [segments, hfirst] at h
      rw [encodeChars_cons, encodeChar_of_firstSegment hfirst, ih (List.cons.inj h).2,
        List.cons_append, List.take_append_drop]

theorem decodeSegments_map_char (offset : Nat) (cs : List Char) :
    decodeSegments offset (cs.map .char) = .ok cs := by
  induction cs generalizing offset with
  | nil => rfl
  | cons c cs ih =>
    rw [List.map_cons, decodeSegments, ih]
    rfl

theorem eq_map_char_of_decodeSegments {offset : Nat} {segments : List Segment} {cs : List Char}
    (h : decodeSegments offset segments = .ok cs) : segments = cs.map .char := by
  induction segments generalizing offset cs with
  | nil =>
    cases h
    rfl
  | cons s rest ih =>
    cases s with
    | illFormed piece defect => cases h
    | char c =>
      rw [decodeSegments] at h
      cases hrest : decodeSegments (offset + charSize c) rest with
      | error fault =>
        rw [hrest] at h
        cases h
      | ok cs' =>
        rw [hrest] at h
        cases h
        rw [List.map_cons, ih hrest]

/-- **Bytes are well-formed exactly if they are the bytes of a text.** -/
theorem decode_eq_ok_iff {bs : Bytes} {s : String} : decode bs = .ok s ↔ encode s = bs := by
  constructor
  · intro h
    rw [decode] at h
    cases hread : decodeSegments 0 (segments bs) with
    | error fault =>
      rw [hread] at h
      cases h
    | ok cs =>
      rw [hread] at h
      cases h
      rw [encode, String.toList_ofList]
      exact encodeChars_of_segments (eq_map_char_of_decodeSegments hread)
  · rintro rfl
    have h := segments_encodeChars_append s.toList []
    rw [List.append_nil, segments, List.append_nil] at h
    rw [decode, encode, h, decodeSegments_map_char]
    exact congrArg Except.ok String.ofList_toList

/-! ### Ill-formed pieces -/

/-- The number of bytes that a segment grows by when the character that stands for it is written
in its place. -/
def Segment.growth : Segment → Nat
  | .char _ => 0
  | .illFormed piece _ => charSize replacement - piece.length

/-- The number of bytes that all of the segments grow by. -/
def growthIn : List Segment → Nat
  | [] => 0
  | segment :: rest => segment.growth + growthIn rest

/-- The number of bytes that a byte string grows by when it is read with a replacement character
for every ill-formed piece and written again. -/
def growth (bs : Bytes) : Nat := growthIn (segments bs)

/-- The character that stands for the first segment has the bytes of the segment and those that it
grows by. An ill-formed piece lacks a byte of its character and so has at most three. -/
theorem charSize_firstSegment {b : UInt8} {bs : Bytes} {segment : Segment} {read : Nat}
    (h : firstSegment b bs = (segment, read)) :
    read ≤ bs.length ∧ charSize segment.toChar = read + 1 + segment.growth := by
  rcases firstSegment_cases b bs with ⟨hb, hfirst⟩ | hfirst |
    ⟨more, lo, hi, read', hcont, ⟨n, hread, hfirst⟩ | ⟨defect, hread, hfirst⟩⟩
  · rw [hfirst] at h
    cases h
    exact ⟨Nat.zero_le _, by rw [Segment.toChar, charSize, encodeChar_one hb]; rfl⟩
  · rw [hfirst] at h
    cases h
    exact ⟨Nat.zero_le _, rfl⟩
  · rw [hfirst] at h
    cases h
    have hlength := (read_of_continueChar hread).1
    refine ⟨hlength, ?_⟩
    rw [Segment.toChar, charSize, encodeChar_of_continueChar hcont hread, List.length_cons,
      List.length_take_of_le hlength]
    rfl
  · rw [hfirst] at h
    cases h
    obtain ⟨hlength, -, hdefect⟩ := read_of_continueChar hread
    have hshort : read < more := hdefect defect rfl
    have hmore : more ≤ 3 := by
      rcases continuation_eq_some hcont with ⟨rfl, -⟩ | ⟨rfl, -⟩ | ⟨rfl, -⟩ <;> decide
    have hsize : charSize replacement = 3 := rfl
    refine ⟨hlength, ?_⟩
    rw [Segment.toChar, Segment.growth, hsize, List.length_cons, List.length_take_of_le hlength]
    omega

/-- **The size of a text that is read** from any bytes: that of the bytes, and what their ill-formed
pieces grow by. -/
theorem size_decodeLossy (bs : Bytes) : size (decodeLossy bs) = bs.length + growth bs := by
  rw [size, encode, decodeLossy, String.toList_ofList]
  induction bs using segments.induct with
  | case1 => rw [growth, segments]; rfl
  | case2 b bs segment read hfirst ih =>
    obtain ⟨hread, hsize⟩ := charSize_firstSegment hfirst
    rw [growth] at ih ⊢
    rw [segments, hfirst]
    simp only [List.map_cons, growthIn, encodeChars_cons, List.length_append, ih,
      List.length_drop, List.length_cons]
    rw [← charSize, hsize]
    omega

/-- The bytes of a character that is read are among the bytes read. -/
theorem mem_of_mem_encodeChar {bs : Bytes} {c : Char} (hc : .char c ∈ segments bs) {b : UInt8}
    (hb : b ∈ encodeChar c) : b ∈ bs := by
  induction bs using segments.induct with
  | case1 =>
    rw [segments] at hc
    cases hc
  | case2 b' bs segment read hfirst ih =>
    rw [segments, hfirst] at hc
    rcases List.mem_cons.mp hc with rfl | hc
    · rw [encodeChar_of_firstSegment hfirst] at hb
      rcases List.mem_cons.mp hb with rfl | hb
      · exact List.mem_cons_self
      · exact List.mem_cons_of_mem b' (List.mem_of_mem_take hb)
    · exact List.mem_cons_of_mem b' (List.mem_of_mem_drop (ih hc))

/-- **Reading invents no NUL.** -/
theorem nul_notMem_decodeLossy {bs : Bytes} (h : 0 ∉ bs) : '\x00' ∉ (decodeLossy bs).toList := by
  rw [decodeLossy, String.toList_ofList, List.mem_map]
  rintro ⟨segment, hsegment, hchar⟩
  cases segment with
  | illFormed piece defect => cases hchar
  | char c =>
    subst hchar
    exact h (mem_of_mem_encodeChar hsegment List.mem_cons_self)

end SwitchTrace.Utf8
