import SwitchTrace.Proofs.Steps
import SwitchTrace.Proofs.Text.Segment
import SwitchTrace.Text.Given

/-!
# Code points and characters

A code point that is no surrogate is the number of one character. So a text that is given as code
points is a text of characters, and of one such text only, or a surrogate is among them.

## Main results

* `CodePoint.char?_eq_none_iff`, `CodePoint.char?_eq_some_iff` — which code points are characters.
* `GivenText.text?_eq_none_iff`, `GivenText.text?_eq_some_iff` — which given texts are texts.
-/

namespace SwitchTrace

namespace CodePoint

theorem not_isSurrogate_ofChar (c : Char) : ¬ (ofChar c).IsSurrogate := by
  rintro ⟨hlow, hhigh⟩
  rcases c.valid with h | ⟨h, -⟩
  · exact Nat.not_lt.mpr hlow h
  · exact Nat.lt_irrefl _ (Nat.lt_of_le_of_lt h hhigh)

theorem ofChar_ofNat {p : CodePoint} (h : ¬ p.IsSurrogate) : ofChar (Char.ofNat p.val) = p := by
  unfold IsSurrogate at h
  have hvalid : p.val < 0xD800 ∨ 0xDFFF < p.val ∧ p.val < 0x110000 := by
    have hlast := p.isLt
    omega
  exact Fin.ext (Utf8.toNat_ofNat_of_valid hvalid)

/-- A surrogate is the number of no character. -/
theorem char?_eq_none_iff {p : CodePoint} : p.char? = none ↔ p.IsSurrogate := by
  unfold char?
  split
  · next h => exact iff_of_true rfl h
  · next h => exact iff_of_false nofun h

/-- Every other code point is the number of one character. -/
theorem char?_eq_some_iff {p : CodePoint} {c : Char} : p.char? = some c ↔ p = ofChar c := by
  constructor
  · intro h
    have hp : ¬ p.IsSurrogate := by
      rw [← char?_eq_none_iff, h]
      exact nofun
    rw [char?, if_neg hp, Option.some.injEq] at h
    rw [← h, ofChar_ofNat hp]
  · rintro rfl
    rw [char?, if_neg (not_isSurrogate_ofChar c)]
    exact congrArg some (Char.ofNat_toNat c)

end CodePoint

namespace GivenText

variable {g : GivenText} {s : String}

/-- **A given text is a text** just if its code points are those of the characters of the text. -/
theorem text?_eq_some_iff : g.text? = some s ↔ g = ofText s := by
  obtain ⟨points⟩ := g
  have hchars (cs : List Char) : List.Forall₂ (fun p c => CodePoint.char? p = some c) points cs ↔
      points = cs.map .ofChar := by
    simp only [CodePoint.char?_eq_some_iff]
    rw [← List.forall₂_map_right_iff, List.forall₂_eq_eq_eq]
  simp only [text?, ofText, Option.map_eq_some_iff, mapM_eq_some_iff, hchars, GivenText.mk.injEq]
  constructor
  · rintro ⟨cs, rfl, rfl⟩
    rw [String.toList_ofList]
  · rintro rfl
    exact ⟨s.toList, rfl, String.ofList_toList⟩

theorem text?_ofText (s : String) : (ofText s).text? = some s := text?_eq_some_iff.mpr rfl

theorem not_hasSurrogate_ofText (s : String) : ¬ (ofText s).HasSurrogate := by
  rintro ⟨p, hp, hsurrogate⟩
  obtain ⟨c, -, rfl⟩ := List.mem_map.mp hp
  exact CodePoint.not_isSurrogate_ofChar c hsurrogate

/-- What stands for a byte is a surrogate. -/
theorem HasByte.hasSurrogate (h : g.HasByte) : g.HasSurrogate := by
  obtain ⟨p, hp, hlow, hhigh⟩ := h
  exact ⟨p, hp, Nat.le_trans (by decide) hlow, Nat.lt_trans hhigh (by decide)⟩

/-- **A given text is no text** just if it has a surrogate. -/
theorem text?_eq_none_iff : g.text? = none ↔ g.HasSurrogate := by
  constructor
  · intro h
    by_contra hno
    have hchar : ∀ p ∈ g.points, p.char?.isSome = true := by
      intro p hp
      rw [Option.isSome_iff_ne_none, ne_eq, CodePoint.char?_eq_none_iff]
      exact fun hsurrogate => hno ⟨p, hp, hsurrogate⟩
    obtain ⟨cs, hcs⟩ := Option.isSome_iff_exists.mp (isSome_mapM_of_forall hchar)
    rw [text?, hcs] at h
    cases h
  · intro hsurrogate
    cases h : g.text? with
    | none => rfl
    | some s => exact absurd hsurrogate (text?_eq_some_iff.mp h ▸ not_hasSurrogate_ofText s)

end GivenText

end SwitchTrace
