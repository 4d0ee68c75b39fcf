import SwitchTrace.Proofs.Text.Segment

/-!
# Texts that are cut at a byte

The bytes of a text can be cut at any of them, also inside a character. What is left is the bytes of
whole characters and, behind them, a start of the next one. This start asks for bytes that are no
longer there, and is one ill-formed piece, whatever its length is. Read without its ill-formed
pieces, the bytes that are left are therefore the longest start of the text that fits.

## Main definitions

* `Utf8.decodeIgnoring` — the text of a byte string without its ill-formed pieces.

## Main results

* `Utf8.firstSegment_take`, `Utf8.segments_take_encodeChar` — a character that is broken off.
* `Utf8.decodeIgnoring_take_encode` — cutting at a byte and cutting at a character.
* `Utf8.prefix_truncateChars` — no longer start of a text fits.
-/

namespace SwitchTrace.Utf8

/-! ### Reading without ill-formed pieces -/

/-- The character of a segment, if it is well formed. -/
def Segment.char? : Segment → Option Char
  | .char c => some c
  | .illFormed _ _ => none

/-- The text of a byte string, its ill-formed pieces being left out. -/
def decodeIgnoring (bs : Bytes) : String := String.ofList ((segments bs).filterMap Segment.char?)

/-! ### One character -/

/-- Of a character that is read to its end, fewer bytes are read to the last of them. -/
theorem continueChar_take {more lo hi bits n read k : Nat} {bs : Bytes}
    (h : continueChar more lo hi bits bs = (.inl n, read)) (hk : k < more) :
    continueChar more lo hi bits (bs.take k) = (.inr .unexpectedEnd, k) := by
  induction more generalizing lo hi bits bs read k with
  | zero => exact absurd hk (Nat.not_lt_zero k)
  | succ more ih =>
    obtain ⟨b, rest, read, rfl, hlo, hhi, -, hrest⟩ := continueChar_succ_eq_inl h
    cases k with
    | zero => rw [List.take_zero, continueChar]
    | succ k =>
      rw [List.take_succ_cons, continueChar_cons hlo hhi, ih hrest (Nat.lt_of_succ_lt_succ hk)]

/-- A character that is read to its end has as many continuation bytes as it asks for. -/
theorem read_eq_of_continueChar {more lo hi bits n read : Nat} {bs : Bytes}
    (h : continueChar more lo hi bits bs = (.inl n, read)) : read = more := by
  induction more generalizing lo hi bits bs read with
  | zero => exact (continueChar_zero_eq_inl h).2
  | succ more ih =>
    obtain ⟨b, rest, read, rfl, -, -, rfl, hrest⟩ := continueChar_succ_eq_inl h
    rw [ih hrest]

/-- A first byte with fewer continuation bytes than its character has is broken off at the end. -/
theorem firstSegment_take {b : UInt8} {bs : Bytes} {c : Char} {read k : Nat}
    (h : firstSegment b bs = (.char c, read)) (hk : k < read) :
    firstSegment b (bs.take k) = (.illFormed (b :: bs.take k) .unexpectedEnd, k) := by
  rcases firstSegment_cases b bs with ⟨-, hcase⟩ | hcase |
    ⟨more, lo, hi, read', hcont, ⟨n, hread, hcase⟩ | ⟨defect, -, hcase⟩⟩ <;> rw [h] at hcase
  · -- A byte that is a character by itself cannot be cut.
    rw [(Prod.mk.inj hcase).2] at hk
    exact absurd hk (Nat.not_lt_zero k)
  · cases hcase
  · obtain rfl := (Prod.mk.inj hcase).2
    have hlead : ¬ b.toNat < 0x80 := by
      rcases continuation_eq_some hcont with ⟨-, hb, -⟩ | ⟨-, hb, -⟩ | ⟨-, hb, -⟩ <;> omega
    have hbroken := continueChar_take hread (read_eq_of_continueChar hread ▸ hk)
    rw [firstSegment, if_neg hlead, hcont]
    simp only [hbroken, List.take_take, Nat.min_self]
  · cases hcase

/-- **A character that is broken off** is one ill-formed piece. -/
theorem segments_take_encodeChar {c : Char} {k : Nat} (hpos : 0 < k) (hk : k < charSize c) :
    segments ((encodeChar c).take k) = [.illFormed ((encodeChar c).take k) .unexpectedEnd] := by
  obtain ⟨b, bs, hc, hfirst⟩ := firstSegment_encodeChar c []
  obtain ⟨k, rfl⟩ : ∃ j, k = j + 1 := ⟨k - 1, by omega⟩
  rw [charSize, hc, List.length_cons, Nat.succ_lt_succ_iff] at hk
  rw [List.append_nil] at hfirst
  have hnothing : (bs.take k).drop k = [] := List.drop_eq_nil_of_le (List.length_take_le k bs)
  rw [hc, List.take_succ_cons, segments, firstSegment_take hfirst hk]
  simp only [hnothing, segments]

/-! ### Texts -/

/-- **The characters of the first bytes of a text** are the longest start of it that fits. -/
theorem filterMap_segments_take (room : Nat) (cs : List Char) :
    (segments ((encodeChars cs).take room)).filterMap Segment.char? = truncateChars room cs := by
  induction cs generalizing room with
  | nil =>
    rw [encodeChars, List.flatMap_nil, List.take_nil, segments]
    rfl
  | cons c cs ih =>
    rw [encodeChars_cons, List.take_append, ← charSize, truncateChars]
    by_cases hc : charSize c ≤ room
    · rw [if_pos hc, List.take_of_length_le hc, segments_encodeChar_append, ← ih]
      exact List.filterMap_cons_some rfl
    · rw [if_neg hc, Nat.sub_eq_zero_of_le (Nat.le_of_not_le hc), List.take_zero, List.append_nil]
      rcases Nat.eq_zero_or_pos room with rfl | hpos
      · rw [List.take_zero, segments]
        rfl
      · rw [segments_take_encodeChar hpos (Nat.lt_of_not_le hc)]
        rfl

/-- **Cutting a text at a byte** and leaving out the character that this breaks off is cutting it at
the last character that fits. -/
theorem decodeIgnoring_take_encode (room : Nat) (s : String) :
    decodeIgnoring ((encode s).take room) = truncate room s := by
  rw [decodeIgnoring, encode, filterMap_segments_take, truncate]

/-- **No longer start of a text fits.** -/
theorem prefix_truncateChars {room : Nat} {start cs : List Char} (hstart : start <+: cs)
    (h : (encodeChars start).length ≤ room) : start <+: truncateChars room cs := by
  obtain ⟨rest, rfl⟩ := hstart
  rw [truncateChars_append rest h]
  exact List.prefix_append start _

end SwitchTrace.Utf8
